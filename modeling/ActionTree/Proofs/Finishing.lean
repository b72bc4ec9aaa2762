import ActionTree.Proofs.Absence
import ActionTree.Proofs.Upholding

/-! Runs that come to an end. Without `while` each element has one pass, handlers end, and what
they run lies below the action, so that fuel for the height of the action is enough. -/
namespace ActionTree
variable {H : Host} {ε ε' α β : Type}

namespace Run

/-- Ends from every machine, well or not. -/
def Finishes (run : Run H ε α) : Prop := ∀ machine, ∃ outcome, run machine = some outcome

theorem finishesAct (act : Act H ε α) : (ofAct act).Finishes := fun machine => ⟨act machine, rfl⟩

theorem finishesBind {first : Run H ε α} {next : α → Run H ε β} (head : first.Finishes)
    (tail : ∀ value, (next value).Finishes) : (first >>= next).Finishes := by
  intro machine
  obtain ⟨before, ran⟩ := head machine
  cases ended : before.result with
  | error error => exact ⟨_, bindEqSome.mpr ⟨before, ran, .inl ⟨error, ended, rfl⟩⟩⟩
  | ok value =>
    obtain ⟨rest, continued⟩ := tail value before.machine
    exact ⟨_, bindEqSome.mpr ⟨before, ran, .inr ⟨value, rest, ended, continued, rfl⟩⟩⟩

theorem finishesMapError {run : Run H ε α} (finishes : run.Finishes) (change : ε → ε') :
    (run.mapError change).Finishes := by
  intro machine
  obtain ⟨before, ran⟩ := finishes machine
  exact ⟨_, mapErrorEqSome.mpr ⟨before, ran, rfl⟩⟩

theorem finishesAttempt {run : Run H ε α} (finishes : run.Finishes) :
    (run.attempt : Run H ε' (Except ε α)).Finishes := by
  intro machine
  obtain ⟨before, ran⟩ := finishes machine
  exact ⟨_, attemptEqSome.mpr ⟨before, ran, rfl⟩⟩

theorem finishesEnsuring {run : Run H ε α} (finishes : run.Finishes)
    (last : Except ε α → Act H ε Unit) : Finishes (Steps.ensuring run last) :=
  finishesBind (finishesAttempt finishes) fun _ =>
    finishesBind (finishesAct _) fun _ => finishesAct _

theorem finishesSequencing : Sequencing (S := Run H) (T := Run H) fun run _ => run.Finishes where
  pure _ := finishesAct _
  fail _ := finishesAct _
  bind := finishesBind
  mapError change finishes := finishesMapError finishes change
  attempt := finishesAttempt

end Run

namespace Interpreter
variable {interpreter : Interpreter H} {action : Action}

theorem underFinishes (interpreter : Interpreter H) (enter : Act H ε Unit) {body : Run H ε α}
    (finishes : body.Finishes) : (interpreter.under enter body).Finishes :=
  Run.finishesBind (Run.finishesAct _) fun _ => Run.finishesEnsuring finishes _

theorem transportFinishes (interpreter : Interpreter H) (action : Action) :
    Transport (S := Run H) (T := Run H) interpreter action fun run _ => run.Finishes where
  toSequencing := Run.finishesSequencing
  act _ := Run.finishesAct _
  target _ finishes := underFinishes _ _ finishes
  element _ _ finishes := underFinishes _ _ finishes
  execution _ finishes := Run.finishesBind (Run.finishesAct _) fun _ =>
    Run.finishesBind (Run.finishesAct _) fun _ => Run.finishesEnsuring finishes _

/-- Only `while` makes a second pass. -/
theorem runBodyFinishes {run : Interpreter H → Action → Run H ActionError Unit}
    (performed : Executions run interpreter action Run.Finishes)
    (once : action.guard? .asLongAs = none) (spans : List Span) (fuel : Nat) :
    (runBody run { interpreter with spans } action (fuel + 1)).Finishes := by
  have transport := transportFinishes interpreter action
  refine underFinishes _ _ (transport.runGrounded run run (fuel + 1) (fuel + 1) ?_)
  intro item? overridden?
  have passed (pass? : Option Nat) :
      (runPass run { interpreter with spans } action item? overridden? pass?).Finishes :=
    transport.runPass run run performed spans pass?
  refine Run.finishesBind (Run.finishesMapError (passed _) _) fun executed => ?_
  simp only [once, Option.isSome_none, Bool.and_false, Bool.false_eq_true, if_false]
  exact Run.finishesAct _

/-- Handlers run no actions but the children of the one they handle. -/
def HandlersDescend (interpreter : Interpreter H) : Prop :=
  interpreter.HandlersKeepTo (fun _ _ => True) fun action nested => nested ∈ action.children

theorem runFinishes (descend : interpreter.HandlersDescend) (fuel : Nat) (spans : List Span)
    (unrepeated : ∀ nested ∈ action.subtree, nested.guard? .asLongAs = none)
    (enough : action.height ≤ fuel) : (runAction fuel { interpreter with spans } action).Finishes := by
  -- On the fuel: a child has less height than its parent, and one less fuel.
  induction fuel generalizing spans action with
  | zero =>
    cases action
    simp [Action.height] at enough
  | succ fuel ih =>
    have once : action.guard? .asLongAs = none := by
      refine unrepeated action ?_
      rw [Action.subtreeEq]
      exact List.mem_cons_self
    have performed : Executions (runAction fuel) interpreter action Run.Finishes := by
      intro spans overridden? handler found
      obtain ⟨uses, follows⟩ := descend action overridden? handler found
      let run := runAction fuel { interpreter with spans }
      refine Run.finishesSequencing.perform run run (fun _ _ => Run.finishesAct _)
        (fun nested member => ih spans ?_ ?_) uses follows
      · exact fun lower inside => unrepeated lower (Action.subtreeChild member inside)
      · exact Nat.le_of_lt_succ (Nat.lt_of_lt_of_le (Action.heightChild member) enough)
    refine Run.finishesBind (Run.finishesAct _) fun _ => ?_
    exact Run.finishesEnsuring
      (Run.finishesMapError (runBodyFinishes performed once spans fuel) _) _

end Interpreter
end ActionTree

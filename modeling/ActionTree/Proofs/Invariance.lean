import ActionTree.Proofs.Derivation
import ActionTree.Proofs.Nesting
import ActionTree.Proofs.Transport

/-! Induction over whole runs of actions. What each quiet step keeps, each frame of the
interpreter, each execution of a handler and each action, the run of any action keeps. -/
namespace ActionTree
open Binding (Stack Frame)
variable {H : Host} {ε : Type}

def Binding.poppings (caller : Caller) (spans : List Span) (stack : Stack H.Item) : List (Event H) :=
  (if stack.pushed.isEmpty then [.logged .rootPopIgnored spans] else []) ++
    [.popped caller stack.pop.depth]

theorem Binding.popEq (caller : Caller) (spans : List Span) (machine : Machine H) :
    (pop caller spans : Act H ε Unit) machine =
      ⟨.ok (), { machine with stack := machine.stack.pop }, poppings caller spans machine.stack⟩ := rfl

structure RunInvariant (R : Machine H → List (Event H) → Machine H → Prop) : Prop
    extends Chained R where
  quiet {before after : Machine H} {events : List (Event H)} :
    QuietStep before events after → R before events after
  framed {before inside : Machine H} {frame : Frame H.Item} {event : Event H}
    {events : List (Event H)} (spans : List Span) : event.Opens frame →
    R { before with stack := before.stack.push frame } events inside →
    R before (event :: (events ++ Binding.poppings .interpreter spans inside.stack))
      { inside with stack := inside.stack.pop }
  execution {before after : Machine H} {events : List (Event H)} (action : Action)
    (overridden? : Option H.Item) (frame : Frame H.Item) (result : Except ActionError Unit) :
    R before events after →
    R before (.dispatched action overridden? frame :: (events ++ [.returned action result])) after

/-- Puts a frame on the stack, or fails and leaves the stack alone. -/
def Act.Enters (enter : Act H ε Unit) : Prop := ∀ machine,
  (∃ error, (enter machine).result = .error error ∧
    QuietStep machine (enter machine).events (enter machine).machine) ∨
  ∃ state frame event events, event.Opens frame ∧ (∀ other ∈ events, other.Quiet) ∧
    enter machine = ⟨.ok (), ⟨state, machine.stack.push frame⟩, events ++ [event]⟩

namespace Act

theorem entersPush (evaluator : Evaluator H.State H.Item) (spec : Binding.Spec) :
    (Binding.push evaluator .interpreter spec).Enters := by
  intro machine
  obtain ⟨state, result, events, _, quiet, same⟩ :=
    Binding.pushSound evaluator .interpreter spec machine
  rw [same]
  cases result with
  | error error =>
    refine .inl ⟨error, rfl, rfl, fun event member => ?_⟩
    rcases List.mem_append.mp member with early | last
    · exact quiet event early
    · cases List.mem_singleton.mp last
      trivial
  | ok frame =>
    exact .inr ⟨state, frame, .pushed .interpreter spec (.ok frame) _, events, rfl, quiet, rfl⟩

theorem entersPushElement (index : Nat) :
    (Binding.pushElement .interpreter index : Act H BindingError Unit).Enters := by
  intro machine
  rw [Binding.pushElementEq]
  cases machine.stack.elementFrame index with
  | error error => exact .inl ⟨error, rfl, rfl, by simp [Event.Quiet]⟩
  | ok frame =>
    exact .inr ⟨machine.state, frame, .iterated .interpreter index (.ok frame) _, [], rfl, by simp,
      rfl⟩

theorem entersMapError {ε' : Type} {enter : Act H ε Unit} (enters : enter.Enters) (change : ε → ε') :
    (enter.mapError change).Enters := by
  intro machine
  rcases enters machine with ⟨error, failed, quiet⟩ | ⟨state, frame, event, events, opens, quiet, same⟩
  · exact .inl ⟨change error, congrArg (Except.mapError change) failed, quiet⟩
  · exact .inr ⟨state, frame, event, events, opens, quiet, by unfold mapError; rw [same]; rfl⟩

end Act

theorem Run.sequencingKeeps {R : Machine H → List (Event H) → Machine H → Prop} (chained : Chained R) :
    Sequencing (S := Run H) (T := Run H) fun run _ => run.Keeps R where
  pure := keepsPure chained
  fail _ := keepsOfAct (Act.keepsOfExcept chained _)
  bind := keepsBind chained
  mapError change kept := keepsMapError kept change
  attempt := keepsAttempt

namespace Interpreter
variable {R : Machine H → List (Event H) → Machine H → Prop}

theorem underKeeps {α : Type} (invariant : RunInvariant R) (interpreter : Interpreter H)
    {enter : Act H ε Unit} (enters : enter.Enters) {body : Run H ε α} (kept : body.Keeps R) :
    (interpreter.under enter body).Keeps R := by
  intro machine outcome ended
  rw [underEq] at ended
  rcases enters machine with ⟨error, failed, quiet⟩ | ⟨state, frame, event, events, opens, quiet, same⟩
  · rw [failed] at ended
    cases ended
    exact invariant.quiet quiet
  · rw [same] at ended
    obtain ⟨inner, ran, rfl⟩ := Option.map_eq_some_iff.mp ended
    have before : R machine events ⟨state, machine.stack⟩ := invariant.quiet ⟨rfl, quiet⟩
    have inside := invariant.join before (invariant.framed interpreter.spans opens (kept _ inner ran))
    simpa [Binding.popEq] using inside

def placed (action : Action) (result : Except PlacedError Unit) : Except ActionError Unit :=
  result.mapError fun error => error.2.within action error.1

theorem placedError {action : Action} {result : Except PlacedError Unit} {error : ActionError}
    (failed : placed action result = .error error) :
    ∃ position cause, result = .error (position, cause) ∧ error = cause.within action position := by
  cases result with
  | error located =>
    cases failed
    exact ⟨located.1, located.2, rfl, rfl⟩
  | ok value => cases failed

theorem runActionEq (fuel : Nat) (interpreter : Interpreter H) (action : Action)
    (machine : Machine H) :
    interpreter.runAction (fuel + 1) action machine =
      (runBody (runAction fuel) interpreter action (fuel + 1) machine).map fun body =>
        ⟨placed action body.result, body.machine,
          .entered action :: (body.events ++ [.left action (placed action body.result)])⟩ := by
  change Option.map _ (Steps.ensuring (Run.mapError _ (runBody (runAction fuel) _ _ _)) _ machine) = _
  rw [Run.ensuringEq fun _ _ => rfl]
  unfold Run.mapError
  simp only [Option.map_map]
  rfl

theorem inExecutionEq (action : Action) (overridden? : Option H.Item)
    (body : Run H ActionError Unit) (machine : Machine H) :
    inExecution action overridden? body machine = (body machine).map fun inner =>
      ⟨inner.result, inner.machine, .dispatched action overridden? machine.stack.current ::
        (inner.events ++ [.returned action inner.result])⟩ := by
  change Option.map _ (Option.map _ (Steps.ensuring body _ machine)) = _
  rw [Run.ensuringEq fun _ _ => rfl]
  simp only [Option.map_map]
  rfl

theorem transportKeeps (invariant : RunInvariant R) (interpreter : Interpreter H) (action : Action) :
    Transport (S := Run H) (T := Run H) interpreter action fun run _ => run.Keeps R where
  toSequencing := Run.sequencingKeeps invariant.toChained
  act single := Run.keepsOfAct fun machine => invariant.quiet (single.plain.quiet machine)
  target _ kept := underKeeps invariant _ (Act.entersMapError (Act.entersPush _ _) _) kept
  element _ index kept := underKeeps invariant _ (Act.entersMapError (Act.entersPushElement index) _) kept
  execution overridden? kept := by
    intro machine outcome ended
    rw [inExecutionEq] at ended
    obtain ⟨inner, ran, rfl⟩ := Option.map_eq_some_iff.mp ended
    exact invariant.execution action overridden? _ inner.result (kept machine inner ran)

theorem bodyKeeps (invariant : RunInvariant R) {interpreter : Interpreter H} {action : Action}
    {run : Interpreter H → Action → Run H ActionError Unit}
    (handled : Executions run interpreter action (·.Keeps R)) (spans : List Span) (fuel : Nat) :
    (runBody run { interpreter with spans } action fuel).Keeps R := by
  have transport := transportKeeps invariant interpreter action
  have spent : (Steps.outOfFuel : Run H PlacedError Unit).Keeps R := by
    intro machine outcome ended
    cases ended
  refine underKeeps invariant _ (Act.entersMapError (Act.entersPush _ _) _) ?_
  exact transport.grounded run run handled 0 (fun _ _ => spent) spans fuel

theorem performKeeps {α : Type} (chained : Chained R) (interpreter : Interpreter H)
    {allowed : Call H → Prop} {run : Action → Run H ActionError Unit}
    (answers : ∀ call, allowed call → (interpreter.answer call).Keeps R)
    (runs : ∀ action, (run action).Keeps R) {program : Program H α} (uses : program.Uses allowed) :
    (interpreter.perform run program).Keeps R :=
  (Run.sequencingKeeps chained).perform run run (fun call asked => Run.keepsOfAct (answers call asked))
    (fun action _ => runs action) uses (Program.runsAny (fun _ => trivial) program)

theorem runActionKeeps (invariant : RunInvariant R) (interpreter : Interpreter H)
    (handlers : ∀ fuel action,
      (∀ spans nested, (runAction fuel { interpreter with spans } nested).Keeps R) →
      Executions (runAction fuel) interpreter action (·.Keeps R))
    (levels : ∀ fuel spans action machine body,
      runBody (runAction fuel) { interpreter with spans } action (fuel + 1) machine = some body →
      R machine body.events body.machine →
      R machine (.entered action :: (body.events ++ [.left action (placed action body.result)]))
        body.machine)
    (fuel : Nat) (spans : List Span) (action : Action) :
    (runAction fuel { interpreter with spans } action).Keeps R := by
  -- On the fuel, of which a handler has one less for the actions it runs. They run inside the
  -- spans of its pass, so that the spans have to vary.
  induction fuel generalizing spans action with
  | zero => intro machine outcome ended; cases ended
  | succ fuel ih =>
    intro machine outcome ended
    rw [runActionEq] at ended
    obtain ⟨body, ran, rfl⟩ := Option.map_eq_some_iff.mp ended
    have handled := handlers fuel action ih
    exact levels fuel spans action machine body ran
      (bodyKeeps invariant handled spans _ machine body ran)

/- What holds of every run, whatever the handlers do. -/

theorem answerSingle (interpreter : Interpreter H) (call : Call H) :
    (interpreter.answer call).Keeps fun _ events _ => ∀ event ∈ events, event.Single := by
  by_cases moves : call.MovesStack
  · cases call with
    | push spec =>
      intro machine
      obtain ⟨state, result, events, _, quiet, same⟩ :=
        Binding.pushSound interpreter.evaluator .handler spec machine
      change ∀ event ∈ (Binding.push interpreter.evaluator .handler spec machine).events, event.Single
      rw [same]
      intro event member
      rcases List.mem_append.mp member with early | last
      · exact (quiet event early).single
      · cases List.mem_singleton.mp last
        trivial
    | pushElement index =>
      intro machine
      change ∀ event ∈ (Binding.pushElement .handler index machine).events, event.Single
      rw [Binding.pushElementEq]
      simp [Event.Single]
    | pop =>
      intro machine event member
      rcases List.mem_append.mp member with early | last
      · split at early
        · cases List.mem_singleton.mp early
          trivial
        · cases early
      · cases List.mem_singleton.mp last
        trivial
    | _ => exact moves.elim
  · exact fun machine event member => ((interpreter.quietAnswer moves machine).2 event member).single

section
variable {P : Action → List (Event H) → Except ActionError Unit → Prop}

theorem nestedInvariant : RunInvariant (H := H) fun _ events _ => Nested P events where
  still _ := .nil
  join := Nested.append
  quiet quiet := .ofSingles fun event member => (quiet.2 event member).single
  framed spans opens inside := by
    have warned (stack : Stack H.Item) : Nested P
        (if stack.pushed.isEmpty then [.logged .rootPopIgnored spans] else []) := by
      split
      · exact .single trivial .nil
      · exact .nil
    simpa [Binding.poppings] using Nested.frame opens (inside.append (warned _)) .nil
  execution _ _ _ _ inside := .execution inside .nil

theorem performNested (interpreter : Interpreter H) {run : Action → Run H ActionError Unit} {α : Type}
    (runs : ∀ action, (run action).Keeps fun _ events _ => Nested P events) (program : Program H α) :
    (interpreter.perform run program).Keeps fun _ events _ => Nested P events :=
  interpreter.performKeeps nestedInvariant.toChained
    (fun call _ machine => .ofSingles (interpreter.answerSingle call machine)) runs
    (Program.usesAny (fun _ => trivial) program)

theorem runActionNested (interpreter : Interpreter H) (levels : ∀ fuel spans action machine body,
      runBody (runAction fuel) { interpreter with spans } action (fuel + 1) machine = some body →
      P action body.events (placed action body.result))
    (fuel : Nat) (spans : List Span) (action : Action) :
    (runAction fuel { interpreter with spans } action).Keeps fun _ events _ => Nested P events :=
  runActionKeeps nestedInvariant interpreter
    (fun _ _ runs spans _ _ _ => performNested _ (runs spans) _)
    (fun fuel spans action machine body ran nested =>
      .level (levels fuel spans action machine body ran) nested .nil) fuel spans action

theorem runActionBrackets (interpreter : Interpreter H) (fuel : Nat) (spans : List Span)
    (action : Action) : (runAction fuel { interpreter with spans } action).Keeps
      fun _ events _ => Nested (fun _ _ _ => True) events :=
  runActionNested interpreter (fun _ _ _ _ _ _ => trivial) fuel spans action

end

def SameDeclarations (before : Machine H) (_ : List (Event H)) (after : Machine H) : Prop :=
  after.stack.models = before.stack.models ∧ after.stack.binds = before.stack.binds

theorem declarationsInvariant : RunInvariant (H := H) SameDeclarations where
  still _ := ⟨rfl, rfl⟩
  join first second := ⟨second.1.trans first.1, second.2.trans first.2⟩
  quiet quiet := by
    unfold SameDeclarations
    rw [quiet.1]
    exact ⟨rfl, rfl⟩
  framed _ _ inside := inside
  execution _ _ _ _ inside := inside

theorem answerDeclarations (interpreter : Interpreter H) (call : Call H) :
    (interpreter.answer call).Keeps SameDeclarations := by
  have afterKeeps (stack : Stack H.Item) (result : Except BindingError (Frame H.Item)) :
      (stack.after result).models = stack.models ∧ (stack.after result).binds = stack.binds := by
    cases result <;> exact ⟨rfl, rfl⟩
  by_cases moves : call.MovesStack
  · cases call with
    | push spec =>
      intro machine
      obtain ⟨state, result, events, _, _, same⟩ :=
        Binding.pushSound interpreter.evaluator .handler spec machine
      change SameDeclarations _ _ (Binding.push interpreter.evaluator .handler spec machine).machine
      rw [same]
      exact afterKeeps machine.stack result
    | pushElement index =>
      intro machine
      change SameDeclarations _ _ (Binding.pushElement .handler index machine).machine
      rw [Binding.pushElementEq]
      exact afterKeeps machine.stack _
    | pop => exact fun _ => ⟨rfl, rfl⟩
    | _ => exact moves.elim
  · exact fun machine => declarationsInvariant.quiet (interpreter.quietAnswer moves machine)

theorem runActionDeclarations (fuel : Nat) (interpreter : Interpreter H) (action : Action) :
    (runAction fuel interpreter action).Keeps SameDeclarations :=
  runActionKeeps declarationsInvariant interpreter
    (fun _ _ runs spans _ _ _ => performKeeps declarationsInvariant.toChained _
      (fun call _ => answerDeclarations _ call) (runs spans) (Program.usesAny (fun _ => trivial) _))
    (fun _ _ _ _ _ _ same => same) fuel interpreter.spans action

end Interpreter
end ActionTree

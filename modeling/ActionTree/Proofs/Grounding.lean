import ActionTree.Proofs.Asking
import ActionTree.Proofs.Upholding

/-! The evaluator is asked where there is a context item. Whatever the frames are, the root and its
position included, only a handler that brings a sequence of its own can have it otherwise. -/
namespace ActionTree
open Binding (Stack Frame Spec)
variable {H : Host} {α : Type} {asks : Call H → Prop}

/-- The sequence and the position that a handler brings along for an evaluation. -/
def Call.focus? : Call H → Option (Focus H.Item)
  | .items _ focus _ => some focus
  | .text _ focus _ => some focus
  | .evaluate _ request => some request.focus
  | _ => none

inductive Grounded (asks : Call H → Prop) : Purpose → Request H.Item → Prop where
  | placed {purpose request} (position : request.focus.InRange) (item : request.contextItem?.isSome)
      (alone : purpose = .guard → request.focus.items.length = 1) : Grounded asks purpose request
  | brought {call request} (asked : asks call) (own : call.focus? = some request.focus) :
      Grounded asks .handler request

theorem Grounded.ofItem {purpose : Purpose} {request : Request H.Item}
    (item : request.contextItem?.isSome) (other : purpose ≠ .guard) : Grounded asks purpose request :=
  .placed ((Focus.isSomeItemIff request.focus).mp item) item fun same => (other same).elim

theorem Call.Requests.grounded {interpreter : Interpreter H} {frame : Frame H.Item} {call : Call H}
    {purpose : Purpose} {request : Request H.Item}
    (requested : call.Requests interpreter frame purpose request) (asked : asks call) :
    Grounded asks purpose request := by
  cases requested with
  | items => exact .brought asked rfl
  | text => exact .brought asked rfl
  | evaluate => exact .brought asked rfl
  | template single => exact .ofItem single nofun
  | find single => exact .ofItem single nofun
  | deferredUpdates single => exact .ofItem single nofun
  | guard => exact .placed ⟨Nat.le_refl 1, Nat.le_refl 1⟩ rfl fun _ => rfl

def Grounds (asks : Call H → Prop) (events : List (Event H)) : Prop :=
  ∀ purpose mode request answer, .evaluated purpose mode request answer ∈ events →
    Grounded asks purpose request

namespace Grounds

theorem append {before after : List (Event H)} (first : Grounds asks before)
    (second : Grounds asks after) : Grounds asks (before ++ after) :=
  fun purpose mode request answer member => (List.mem_append.mp member).elim
    (first purpose mode request answer) (second purpose mode request answer)

theorem silent {events : List (Event H)}
    (none : ∀ purpose mode request answer, .evaluated purpose mode request answer ∉ events) :
    Grounds asks events :=
  fun purpose mode request answer member => (none purpose mode request answer member).elim

theorem progressing : Progressing (H := H) fun _ events _ => Grounds asks events :=
  ⟨fun _ => silent (by simp), fun _ => silent (by simp), append⟩

theorem poppings (caller : Caller) (spans : List Span) (stack : Stack H.Item) :
    Grounds asks (Binding.poppings caller spans stack) := by
  refine silent fun purpose mode request answer => ?_
  unfold Binding.poppings
  split <;> simp

theorem ofSpec {spec : Spec} {stack : Stack H.Item} {events : List (Event H)}
    (requests : spec.Requests stack events) : Grounds asks events := by
  intro purpose mode request answer member
  obtain ⟨focus, expression, _, inRange, same⟩ := requests _ member
  cases same
  exact .ofItem ((Focus.isSomeItemIff focus).mpr inRange) nofun

theorem push (evaluator : Evaluator H.State H.Item) (caller : Caller) (spec : Spec) :
    (Binding.push evaluator caller spec).Keeps fun _ events _ => Grounds asks events := by
  intro machine
  obtain ⟨_, _, _, derivation, _, same⟩ := Binding.pushSound evaluator caller spec machine
  rw [same]
  exact (ofSpec derivation.requests).append (silent (by simp))

theorem pushElement (caller : Caller) (index : Nat) :
    (Binding.pushElement caller index : Act H BindingError Unit).Keeps fun _ events _ =>
      Grounds asks events := by
  intro machine
  rw [Binding.pushElementEq]
  exact silent (by simp)

theorem framing {enter : Act H BindingError Unit}
    (entered : enter.Keeps fun _ events _ => Grounds asks events) :
    Framing (fun _ events _ => Grounds asks events) (fun _ events _ => Grounds asks events) enter where
  refused _ := entered _
  framed spans _ inside := by
    refine (entered _).append (inside.append fun purpose mode request answer member => ?_)
    obtain ⟨after, _, last⟩ := memClosing.mp member
    exact poppings .interpreter spans after.stack purpose mode request answer last

end Grounds

namespace Interpreter
variable {interpreter : Interpreter H}

theorem answerGrounds (interpreter : Interpreter H) {call : Call H} (asked : asks call) :
    (interpreter.answer call).Keeps fun _ events _ => Grounds asks events := by
  intro machine
  by_cases moves : call.MovesStack
  · cases call with
    | push spec => exact Grounds.push interpreter.evaluator .handler spec machine
    | pushElement index => exact Grounds.pushElement .handler index machine
    | pop => exact Grounds.poppings .handler interpreter.spans machine.stack
    | _ => exact moves.elim
  · exact fun purpose mode request answer member =>
      ((interpreter.answerAsks moves machine).2 purpose mode request answer member).grounded asked

theorem groundsUpholding (interpreter : Interpreter H) (asks : Call H → Prop) (action : Action) :
    Upholding interpreter (fun _ => asks) (fun _ _ => True) action
      (fun _ _ events _ => Grounds asks events) (fun _ _ events _ => Grounds asks events) where
  progressing _ := Grounds.progressing
  logged _ _ _ _ := Grounds.silent (by simp)
  lookedUp _ _ _ _ := Grounds.silent (by simp)
  admits spans item? guard _ := by
    intro machine purpose mode request answer member
    obtain ⟨item, expression, _, _, rfl, rfl⟩ :=
      ({ interpreter with spans }.admitsAsks _ item? guard machine).2 _ _ _ _ member
    exact .placed ⟨Nat.le_refl 1, Nat.le_refl 1⟩ rfl fun _ => rfl
  answer _ _ asked := answerGrounds _ asked
  ground _ := Grounds.framing (Grounds.push _ _ _)
  target _ := Grounds.framing (Grounds.push _ _ _)
  element _ index := Grounds.framing (Grounds.pushElement .interpreter index)
  execution _ _ _ inside := by
    intro purpose mode request answer member
    simp only [List.mem_cons, List.mem_append, memClosing] at member
    rcases member with same | early | ⟨_, _, last⟩
    · cases same
    · exact inside purpose mode request answer early
    · simp at last
  level _ _ inside := by
    intro purpose mode request answer member
    simp only [List.mem_cons, List.mem_append, memClosing] at member
    rcases member with same | early | ⟨_, _, last⟩
    · cases same
    · exact inside purpose mode request answer early
    · simp at last

theorem runGrounds (handlers : interpreter.HandlersKeepTo (fun _ => asks) fun _ _ => True) (fuel : Nat)
    (action : Action) : (runWatched fuel interpreter action).Keeps fun _ events _ => Grounds asks events :=
  runUpheld (groundsUpholding interpreter asks action) handlers fuel interpreter.spans .outermost

/-- Stack operations, calls and runs of actions in any order, from any stack. -/
theorem requestsGrounded (handlers : interpreter.HandlersKeepTo (fun _ => asks) fun _ _ => True)
    {program : Program H α} (uses : program.Uses asks) (fuel : Nat) (machine : Machine H) :
    let progress := interpreter.perform (runWatched fuel interpreter) program machine
    interpreter.perform (runAction fuel interpreter) program machine = progress.outcome? ∧
      ∀ purpose mode request answer, .evaluated purpose mode request answer ∈ progress.events →
        Grounded asks purpose request := by
  have follows : program.Runs fun _ => True := Program.runsAny (fun _ => trivial) program
  constructor
  · exact Run.seenSequencing.perform _ _ (fun _ _ => Run.seenOfAct _)
      (fun action _ => runSeen fuel interpreter action) uses follows machine
  · let run := runWatched fuel interpreter
    exact (Watch.sequencingKeeps Grounds.progressing).perform run run
      (fun _ asked => Watch.keepsOfAct (answerGrounds interpreter asked))
      (fun action _ => runGrounds handlers fuel action) uses follows machine

end Interpreter

namespace Counting

def beyond : Machine host := ⟨(0 : Nat), .ofRoot (.plain ⟨[(7 : Nat)], 5⟩ none)⟩

def wander : Program host Unit := do
  .call (.push { Spec.anchored block "" with select? := some "all" })
  .call .pop
  .call (.pushElement 1)
  .runAction block

def Event.focus? : Event host → Option (Focus Nat)
  | .evaluated _ _ request _ => some request.focus
  | _ => none

theorem wanderUses : wander.Uses fun call => call.focus? = none :=
  Program.usesBind ⟨rfl, Program.usesOfExcept⟩ fun _ =>
    Program.usesBind ⟨rfl, Program.usesOfExcept⟩ fun _ =>
      Program.usesBind ⟨rfl, Program.usesOfExcept⟩ fun _ => Program.usesOfExcept

end Counting

theorem Interpreter.requestsGroundedBeyond : ∃ outcome,
    Counting.interpreter.perform (runAction 4 Counting.interpreter) Counting.wander Counting.beyond =
        some outcome ∧
      outcome.events.filterMap Counting.Event.focus? =
        [⟨[7], 1⟩, ⟨[1], 1⟩, ⟨[1], 1⟩, ⟨[1], 1⟩, ⟨[2], 1⟩, ⟨[2], 1⟩] ∧
      ∀ purpose mode request answer, .evaluated purpose mode request answer ∈ outcome.events →
        Grounded (fun call => call.focus? = none) purpose request := by
  have foci : (Counting.interpreter.perform (runAction 4 Counting.interpreter) Counting.wander
      Counting.beyond).map (fun outcome => outcome.events.filterMap Counting.Event.focus?) =
        some [⟨[7], 1⟩, ⟨[1], 1⟩, ⟨[1], 1⟩, ⟨[1], 1⟩, ⟨[2], 1⟩, ⟨[2], 1⟩] := by decide +kernel
  have keep : Counting.interpreter.HandlersKeepTo (fun _ call => call.focus? = none)
      fun _ _ => True := Counting.handlersKeepTo (fun _ => rfl) fun _ _ _ => trivial
  obtain ⟨same, grounded⟩ := requestsGrounded keep Counting.wanderUses 4 Counting.beyond
  obtain ⟨outcome, ended, here⟩ := Option.map_eq_some_iff.mp foci
  rw [Progress.outcomeEvents (same.symm.trans ended)] at grounded
  exact ⟨outcome, ended, here, grounded⟩

end ActionTree

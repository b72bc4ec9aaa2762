import ActionTree.Proofs.Failure
import ActionTree.Proofs.Marks

/-! How far a run of an action has come when it breaks off. Executions before the break are done,
and what comes after it takes frames off the stack. -/
namespace ActionTree
open Binding (Stack Frame Spec)
open Course
open Interpreter (PlacedError placed)
variable {H : Host}

inductive Stage where
  | ground
  | element
  | guard
  | lookup
  | target
  | handler
  deriving DecidableEq, Repr

/-- How many executions are left open under an error with so many levels. -/
def Stage.unclosed : Stage → Nat → Nat
  | ground, levels => levels - 1
  | element, levels => levels - 1
  | guard, levels => levels - 1
  | lookup, levels => levels
  | target, levels => levels
  | handler, levels => levels

theorem Event.Unwinds.unmarked {event : Event H} (unwinds : event.Unwinds) : event.marks = false := by
  cases unwinds <;> rfl

namespace Course

section
variable (interpreter : Interpreter H) (action : Action)
  (execution : Except ActionError Unit → List (Event H) → Prop)

inductive Cut : Stage → ActionError → List (Event H) → Prop where
  | ground {error events} (refused : Requested (interpreter.groundSpec action) (.error error) events) :
      Cut .ground (.binding error) events
  | element {index error depth} :
      Cut .element (.binding error) [.iterated .interpreter index (.error error) depth]
  | guard {stack item? guard error events}
      (check : Level.Check interpreter action stack item? guard (.error error) events) :
      Cut .guard error events
  | lookup {pass?} (unknown : interpreter.handlerFor action.name = none) :
      Cut .lookup (.unknownAction action.name)
        (Level.opening (Level.within interpreter action pass?) action false)
  | target {pass? error events}
      (refused : Requested (interpreter.targetSpec action) (.error error) events) :
      Cut .target (.binding error)
        (Level.opening (Level.within interpreter action pass?) action true ++ events)
  | handler {pass? overridden? frame error events events'}
      (opened : Requested (interpreter.targetSpec action) (.ok frame) events)
      (executed : execution (.error error) events') :
      Cut .handler error (Level.opening (Level.within interpreter action pass?) action true ++
        (events ++ .dispatched action overridden? frame ::
          (events' ++ [.returned action (.error error)])))

/-- A cut after executions that are done. What follows it takes frames off the stack. -/
inductive CutOff (stage : Stage) (cause : ActionError) : List (Event H) → Prop where
  | cutOff {before broken after} (paired : Paired (marks before))
      (cut : Cut interpreter action execution stage cause broken)
      (unwinding : ∀ event ∈ after, event.Unwinds) : CutOff stage cause (before ++ (broken ++ after))

inductive Balanced {ε α : Type} (cause : ε → ActionError) : Except ε α → List (Event H) → Prop where
  | well {value events} (paired : Paired (marks events)) : Balanced cause (.ok value) events
  | broken {error stage events}
      (cutOff : CutOff interpreter action execution stage (cause error) events) :
      Balanced cause (.error error) events

end
section
variable {interpreter : Interpreter H} {action : Action}
  {execution : Except ActionError Unit → List (Event H) → Prop} {ε ε' α β : Type}
  {cause : ε → ActionError}

theorem requestedUnmarked {spec : Spec} {result : Except BindingError (Frame H.Item)}
    {events : List (Event H)} (requested : Requested spec result events) :
    ∀ event ∈ events, event.marks = false := by
  cases requested with
  | requested derivation =>
    exact List.forall_mem_append.mpr
      ⟨Binding.derivationUnmarked derivation, List.forall_mem_singleton.mpr rfl⟩

theorem checkUnmarked {stack : Stack H.Item} {item? : Option H.Item} {guard : Guard}
    {result : Except ActionError Bool} {events : List (Event H)}
    (check : Level.Check interpreter action stack item? guard result events) :
    ∀ event ∈ events, event.marks = false := by
  cases check with
  | absent absent => exact List.forall_mem_nil _
  | fails present here truth =>
    exact List.forall_mem_cons.mpr ⟨rfl, List.forall_mem_singleton.mpr rfl⟩
  | _ => exact List.forall_mem_singleton.mpr rfl

namespace Balanced

theorem paired {value : α} {events : List (Event H)}
    (balanced : Balanced interpreter action execution cause (.ok value : Except ε α) events) :
    Paired (marks events) := by
  cases balanced with
  | well paired => exact paired

theorem quiet {value : α} {events : List (Event H)} (unmarked : ∀ event ∈ events, event.marks = false) :
    Balanced interpreter action execution cause (.ok value : Except ε α) events :=
  .well (.ofUnmarked unmarked)

theorem here {stage : Stage} {error : ε} {events : List (Event H)}
    (cut : Cut interpreter action execution stage (cause error) events) :
    Balanced interpreter action execution cause (.error error : Except ε α) events := by
  have cutOff : CutOff interpreter action execution stage (cause error) ([] ++ (events ++ [])) :=
    .cutOff .nil cut (List.forall_mem_nil _)
  rw [List.nil_append, List.append_nil] at cutOff
  exact .broken cutOff

theorem after {result : Except ε α} {before events : List (Event H)} (early : Paired (marks before))
    (balanced : Balanced interpreter action execution cause result events) :
    Balanced interpreter action execution cause result (before ++ events) := by
  cases balanced with
  | well paired => exact .well (marksAppend before events ▸ early.append paired)
  | broken cutOff =>
    cases cutOff with
    | @cutOff others broken after paired cut unwinding =>
      rw [← List.append_assoc]
      exact .broken (.cutOff (marksAppend before others ▸ early.append paired) cut unwinding)

theorem closed {result : Except ε α} {events after : List (Event H)}
    (balanced : Balanced interpreter action execution cause result events)
    (unwinding : ∀ event ∈ after, event.Unwinds) :
    Balanced interpreter action execution cause result (events ++ after) := by
  cases balanced with
  | well paired =>
    refine .well ?_
    rwa [marksBefore fun event member => (unwinding event member).unmarked]
  | broken cutOff =>
    cases cutOff with
    | cutOff paired cut others =>
      rw [List.append_assoc, List.append_assoc]
      exact .broken (.cutOff paired cut (List.forall_mem_append.mpr ⟨others, unwinding⟩))

theorem failed {cause' : ε' → ActionError} {error : ε} {error' : ε'} {events : List (Event H)}
    (balanced : Balanced interpreter action execution cause (.error error : Except ε α) events)
    (same : cause' error' = cause error) :
    Balanced interpreter action execution cause' (.error error' : Except ε' β) events := by
  cases balanced with
  | broken cutOff => exact .broken (same ▸ cutOff)

end Balanced

theorem balancedComposes : Composes (Balanced (H := H) interpreter action execution) where
  nil := .well .nil
  failed := Balanced.failed
  well _ balanced := .well balanced.paired
  after first next := next.after first.paired
  closed := Balanced.closed

theorem checkBalanced {stack : Stack H.Item} {item? : Option H.Item} {guard : Guard}
    {result : Except ActionError Bool} {events : List (Event H)}
    (check : Level.Check interpreter action stack item? guard result events) :
    Balanced interpreter action execution id result events := by
  cases result with
  | error error => exact .here (.guard check)
  | ok value => exact .quiet (checkUnmarked check)

theorem groundBalanced {result : Except BindingError (Frame H.Item)} {events : List (Event H)}
    (requested : Requested (interpreter.groundSpec action) result events) :
    Balanced interpreter action execution ActionError.binding result events := by
  cases result with
  | error error => exact .here (.ground requested)
  | ok frame => exact .quiet (requestedUnmarked requested)

theorem indexedBalanced {index : Nat} {result : Except BindingError (Frame H.Item)}
    {events : List (Event H)} (indexed : Indexed index result events) :
    Balanced interpreter action execution ActionError.binding result events := by
  cases indexed with
  | indexed stack =>
    cases stack.elementFrame index with
    | error error => exact .here .element
    | ok frame => exact .quiet (List.forall_mem_singleton.mpr rfl)

section
variable (inside : ∀ {events}, execution (.ok ()) events → Paired (marks events))
include inside

theorem executedBalanced {overridden? : Option H.Item} {pass? : Option Nat}
    {result : Except ActionError Unit} {events : List (Event H)}
    (executed : Executed (Level.within interpreter action pass?) action (fun _ _ => execution)
      overridden? result events) : Balanced interpreter action execution id result events := by
  cases executed with
  | unknown unknown => exact .here (.lookup unknown)
  | @failed handler error events known framed =>
    cases framed with
    | refused refused => exact .here (.target refused)
    | @framed frame _ opening _ stack opened handled =>
      cases handled with
      | @handled inner executed =>
        have cut : Cut interpreter action execution .handler error
            (Level.opening (Level.within interpreter action pass?) action true ++
              (opening ++ .dispatched action overridden? frame ::
                (inner ++ [.returned action (.error error)]))) := .handler opened executed
        have balanced : Balanced interpreter action execution id (.error error : Except _ Unit) _ :=
          (Balanced.here cut).closed
            (Binding.poppingsUnwind (Level.within interpreter action pass?).spans stack)
        simpa using balanced
  | done known framed =>
    cases framed with
    | @framed frame _ requested _ stack opened handled =>
      cases handled with
      | @handled inner executed =>
        let passing := Level.within interpreter action pass?
        have paired : Paired (passing.logged .executing :: .dispatched action overridden? frame ::
            (marks inner ++ [passing.logged .done])) := .pair (inside executed) .nil
        have opening : marks (Level.opening passing action true) = [passing.logged .executing] := rfl
        have finished : marks [passing.logged .done] = [passing.logged .done] := rfl
        refine .well ?_
        rw [marksAppend, marksAppend, marksAppend, marksAppend, opening, finished,
          marksNone (requestedUnmarked opened), marksExecution,
          marksNone (Binding.poppingsUnmarked .interpreter passing.spans stack)]
        simpa using paired

theorem bodyBalanced {result : Except PlacedError Unit} {events : List (Event H)}
    (body : Body interpreter action (fun _ _ => execution) result events) :
    Balanced interpreter action execution Prod.snd result events :=
  balancedComposes.body checkBalanced (executedBalanced inside) indexedBalanced groundBalanced body

end
end
end Course
end ActionTree

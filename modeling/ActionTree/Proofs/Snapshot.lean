import ActionTree.Proofs.Course
import ActionTree.Proofs.Findings
import ActionTree.Proofs.Rounds

/-! Runs over a captured sequence. `iterate` is evaluated once, in the context that model and
context give, and each item of the result is run in a frame that holds the same sequence. -/
namespace ActionTree
open Binding (Stack Frame Spec Derivation Narrowing Settling Selection)
open Focus (start)
variable {H : Host}

/-- Works on this item, and asks no more than the item and its target call for. -/
def Event.Serves (item : H.Item) (target? : Option (Request H.Item)) : Event H → Prop
  | .evaluated .guard _ request _ => request.focus = ⟨[item], 1⟩
  | .evaluated .binding _ request _ => target? = some request
  | .evaluated _ _ _ _ => False
  | .dispatched _ overridden? _ => overridden? = some item
  | .iterated _ _ _ _ => False
  | _ => True

/-- Is no request for an element out of range, and no failure of one. -/
def Event.InRange : Event H → Prop
  | .iterated _ _ (.error _) _ => False
  | .pushed _ _ (.error error) _ => ∀ index length, error ≠ .iterationOutOfRange index length
  | _ => True

section
variable (interpreter : Interpreter H) (action : Action)

/-- The run of one item, in the frame that was pushed for its index. -/
inductive Turn (stack : Stack H.Item) (items : List H.Item) :
    (offset : Nat) → Except Interpreter.PlacedError Unit → List (Event H) → Prop where
  | turn {offset item frame result events} (captured : items[offset]? = some item)
      (pushed : stack.elementFrame (offset + 1) = .ok frame)
      (focused : frame.focus = ⟨items, offset + 1⟩) (context : frame.contextItem? = some item)
      (single : frame.single? = some item)
      (passes : Level.Passes interpreter action (stack.push frame) (some item) (some item) 1
        result events)
      (serves : ∀ event ∈ events, event.Serves item
        ((stack.push frame).targetRequest? (interpreter.targetSpec action))) :
      Turn stack items offset (result.mapError (Interpreter.inElement (offset + 1)))
        (Level.framed stack (offset + 1) frame events)

/-- What an action that iterates comes to: one evaluation at the most, and then the items of its
result in turn. -/
inductive Snapshot (expression : String) (stack : Stack H.Item) :
    Except Interpreter.PlacedError Unit → List (Event H) → Prop where
  | ungrounded {error} (unknown : stack.groundOf (interpreter.groundSpec action) = .error error) :
      Snapshot expression stack (.error (Interpreter.inPass none (.binding error)))
        [.pushed .interpreter (interpreter.groundSpec action) (.error error) stack.depth]
  | unnarrowed {base modelId? error events}
      (grounded : stack.groundOf (interpreter.groundSpec action) = .ok (base, modelId?))
      (narrowed : Narrowing stack (interpreter.groundSpec action) modelId? base (.error error) events) :
      Snapshot expression stack (.error (Interpreter.inPass none (.binding error)))
        (events ++ [.pushed .interpreter (interpreter.groundSpec action) (.error error) stack.depth])
  | unselected {base modelId? context error events events'}
      (grounded : stack.groundOf (interpreter.groundSpec action) = .ok (base, modelId?))
      (narrowed : Narrowing stack (interpreter.groundSpec action) modelId? base (.ok context) events)
      (selected : Selection stack (interpreter.groundSpec action) modelId? context expression
        (.error error) events') :
      Snapshot expression stack (.error (Interpreter.inPass none (.binding error)))
        (events ++ events' ++
          [.pushed .interpreter (interpreter.groundSpec action) (.error error) stack.depth])
  | captured {base modelId? context items frame result events events' turns}
      (grounded : stack.groundOf (interpreter.groundSpec action) = .ok (base, modelId?))
      (narrowed : Narrowing stack (interpreter.groundSpec action) modelId? base (.ok context) events)
      (selected : Selection stack (interpreter.groundSpec action) modelId? context expression
        (.ok items) events')
      (focused : frame.focus = start items)
      (turned : InTurn (Turn interpreter action (stack.push frame) items) (List.range items.length)
        result turns) :
      Snapshot expression stack result (events ++ events' ++
        .pushed .interpreter (interpreter.groundSpec action) (.ok frame) (stack.push frame).depth ::
          (turns ++ [.popped .interpreter stack.depth]))

end
namespace Binding

def Ranged {α : Type} (result : Except BindingError α) : Prop :=
  ∀ error, result = .error error → ∀ index length, error ≠ .iterationOutOfRange index length

section
variable {α β : Type} {stack : Stack H.Item} {spec : Spec}

theorem rangedOk (value : α) : Ranged (.ok value) := nofun

theorem rangedError {error : BindingError} (ranged : Ranged (.error error : Except _ α)) :
    Ranged (.error error : Except _ β) := by
  rintro _ ⟨⟩
  exact ranged error rfl

theorem rangedMap {result : Except BindingError α} (ranged : Ranged result) (change : α → β) :
    Ranged (result.map change) := by
  cases result with
  | error error => exact rangedError ranged
  | ok value => exact rangedOk (change value)

theorem rangedModelRoot (stack : Stack H.Item) (id : String) : Ranged (stack.modelRoot id) := by
  unfold Stack.modelRoot
  split
  · rintro _ ⟨⟩
    exact nofun
  · exact rangedOk _

theorem rangedBindRoot (stack : Stack H.Item) (id : String) : Ranged (stack.bindRoot id) := by
  unfold Stack.bindRoot
  split
  · rintro _ ⟨⟩
    exact nofun
  · exact rangedMap (rangedModelRoot stack _) _

theorem rangedGround (stack : Stack H.Item) (spec : Spec) : Ranged (stack.groundOf spec) := by
  unfold Stack.groundOf
  split
  · exact rangedOk _
  · exact rangedMap (rangedModelRoot stack _) _

theorem Selection.ranged {modelId? : Option String} {focus : Focus H.Item} {expression : String}
    {result : Except BindingError (List H.Item)} {events : List (Event H)}
    (selection : Selection stack spec modelId? focus expression result events) : Ranged result := by
  cases selection with
  | skipped outside => exact rangedOk _
  | evaluated inside answer =>
    cases answer with
    | error error =>
      rintro _ ⟨⟩
      exact nofun
    | ok items => exact rangedOk _

theorem Narrowing.ranged {modelId? : Option String} {base : Focus H.Item}
    {result : Except BindingError (Focus H.Item)} {events : List (Event H)}
    (narrowed : Narrowing stack spec modelId? base result events) : Ranged result := by
  cases narrowed with
  | kept absent => exact rangedOk _
  | selected present selection => exact rangedMap selection.ranged _

theorem Settling.ranged {modelId? : Option String} {context : Focus H.Item}
    {result : Except BindingError (Focus H.Item)} {events : List (Event H)}
    (settled : Settling stack spec modelId? context result events) : Ranged result := by
  cases settled with
  | undeclared present unknown => exact rangedError (unknown ▸ rangedBindRoot stack _)
  | bound present declared selection => exact rangedMap selection.ranged _
  | selected unbound present selection => exact rangedMap selection.ranged _
  | kept unbound absent => exact rangedOk _

theorem Derivation.ranged {result : Except BindingError (Frame H.Item)} {events : List (Event H)}
    (derivation : Derivation stack spec result events) : Ranged result := by
  cases derivation with
  | ungrounded unknown => exact rangedError (unknown ▸ rangedGround stack spec)
  | unnarrowed grounded narrowed => exact rangedError narrowed.ranged
  | unsettled grounded narrowed settled => exact rangedError settled.ranged
  | derived grounded narrowed settled => exact rangedOk _

theorem Settling.ofSelect {modelId? : Option String} {context : Focus H.Item} {expression : String}
    {result : Except BindingError (Focus H.Item)} {events : List (Event H)}
    (unbound : spec.bind? = none) (present : spec.select? = some expression)
    (settled : Settling stack spec modelId? context result events) :
    ∃ items, Selection stack spec modelId? context expression items events ∧
      result = items.map start := by
  cases settled with
  | undeclared bound _ => exact absurd (unbound.symm.trans bound) nofun
  | bound bound _ _ => exact absurd (unbound.symm.trans bound) nofun
  | selected _ wanted selection =>
    cases present.symm.trans wanted
    exact ⟨_, selection, rfl⟩
  | kept _ absent => exact absurd (absent.symm.trans present) nofun

theorem elementFocus {index : Nat} {frame : Frame H.Item}
    (derived : stack.elementFrame index = .ok frame) :
    frame.focus = ⟨stack.current.focus.items, index⟩ := by
  unfold Stack.elementFrame at derived
  dsimp only at derived
  split at derived
  · cases derived
    rfl
  · cases derived

end
end Binding
namespace Level
variable {interpreter : Interpreter H} {action : Action} {stack : Stack H.Item}

theorem happensServes {item : H.Item} {event : Event H}
    (happens : Happens interpreter action stack (some item) (some item) event) :
    event.Serves item (stack.targetRequest? (interpreter.targetSpec action)) := by
  cases happens with
  | guard present here =>
    cases here
    rfl
  | target needed => exact needed
  | dispatched => rfl
  | _ => trivial

theorem pushedInRange {spec : Spec} {result : Except BindingError (Frame H.Item)}
    {events : List (Event H)} (derivation : Derivation stack spec result events) (depth : Nat) :
    (Event.pushed .interpreter spec result depth).InRange := by
  cases result with
  | error error => exact derivation.ranged error rfl
  | ok frame => trivial

theorem happensInRange {item? overridden? : Option H.Item} {event : Event H}
    (happens : Happens interpreter action stack item? overridden? event) : event.InRange := by
  cases happens with
  | bound derivation => exact pushedInRange derivation _
  | _ => trivial

theorem passesInRange {item? overridden? : Option H.Item}
    {result : Except Interpreter.PlacedError Unit} {events : List (Event H)}
    (passes : Passes interpreter action stack item? overridden? 1 result events) :
    ∀ event ∈ events, event.InRange :=
  fun event member => happensInRange (passesHappen passes event member)

theorem turnOf {items : List H.Item} {offset : Nat} {item : H.Item} {frame : Frame H.Item}
    {result : Except Interpreter.PlacedError Unit} {events : List (Event H)}
    (captured : stack.current.focus.items = items) (present : items[offset]? = some item)
    (derived : stack.elementFrame (offset + 1) = .ok frame)
    (passes : Passes interpreter action (stack.push frame) (some item) (some item) 1 result events) :
    Turn interpreter action stack items offset
      (result.mapError (Interpreter.inElement (offset + 1))) (framed stack (offset + 1) frame events) := by
  obtain ⟨context, single⟩ := elementItems derived
  have here : frame.contextItem? = some item := by
    rw [context, captured]
    exact present
  have focused := Binding.elementFocus derived
  rw [captured] at focused
  exact .turn present derived focused here (single.trans here) passes
    fun event member => happensServes (passesHappen passes event member)

theorem elementsTurns {elements : List H.Item} {index : Nat}
    {result : Except Interpreter.PlacedError Unit} {events : List (Event H)}
    (ended : Elements interpreter action stack elements index result events) (done : List H.Item)
    (captured : stack.current.focus.items = done ++ elements) (reached : index = done.length + 1) :
    InTurn (Turn interpreter action stack (done ++ elements))
      (List.range' done.length elements.length) result events := by
  -- On what is still to come, the items that are done being a parameter.
  induction ended generalizing done with
  | none => exact .none
  | @failed element rest _ _ _ _ derived passes =>
    subst reached
    exact .failed (turnOf captured (by simp) derived passes)
  | @next element rest _ _ _ _ _ derived passes more ih =>
    subst reached
    have later := ih (done ++ [element]) (by simp [captured]) (by simp)
    rw [List.append_assoc, List.length_append] at later
    exact .next (turnOf captured (by simp) derived passes) later

theorem elementsInRange {elements : List H.Item} {index : Nat}
    {result : Except Interpreter.PlacedError Unit} {events : List (Event H)}
    (ended : Elements interpreter action stack elements index result events) :
    ∀ event ∈ events, event.InRange := by
  have inside {frame index events} (passes : ∀ event ∈ events, event.InRange) :
      ∀ event ∈ framed stack index frame events, event.InRange :=
    List.forall_mem_cons.mpr ⟨trivial,
      List.forall_mem_append.mpr ⟨passes, List.forall_mem_singleton.mpr trivial⟩⟩
  induction ended with
  | none => exact List.forall_mem_nil _
  | failed derived passes => exact inside (passesInRange passes)
  | next derived passes more ih =>
    exact List.forall_mem_append.mpr ⟨inside (passesInRange passes), ih⟩

theorem bodySnapshot {expression : String} {result : Except Interpreter.PlacedError Unit}
    {events : List (Event H)} (iterates : action.iterate? = some expression)
    (body : Body interpreter action stack result events) :
    Snapshot interpreter action expression stack result events := by
  cases body with
  | unbound derivation =>
    generalize failed : Except.error _ = derived at derivation
    cases derivation with
    | ungrounded unknown =>
      cases failed
      exact .ungrounded unknown
    | unnarrowed grounded narrowed =>
      cases failed
      exact .unnarrowed grounded narrowed
    | unsettled grounded narrowed settled =>
      cases failed
      obtain ⟨items, selected, same⟩ := settled.ofSelect rfl iterates
      cases items with
      | error error =>
        cases same
        exact .unselected grounded narrowed selected
      | ok items => cases same
    | derived grounded narrowed settled => cases failed
  | bound derivation content =>
    cases content with
    | single plain passes => exact absurd (plain.symm.trans iterates) nofun
    | several _ elements =>
      cases derivation with
      | derived grounded narrowed settled =>
        obtain ⟨items, selected, same⟩ := settled.ofSelect rfl iterates
        obtain ⟨items, rfl, rfl⟩ := Binding.mapStartOk same.symm
        have turned := elementsTurns elements [] rfl rfl
        exact .captured grounded narrowed selected rfl (List.range_eq_range' ▸ turned)

theorem bodyInRange {result : Except Interpreter.PlacedError Unit} {events : List (Event H)}
    (body : Body interpreter action stack result events) : ∀ event ∈ events, event.InRange := by
  have asked {spec result events} (derivation : Derivation stack spec result events) :
      ∀ event ∈ events, event.InRange := by
    intro event member
    obtain ⟨request, answer, rfl⟩ := derivation.evaluates event member
    trivial
  cases body with
  | unbound derivation =>
    exact List.forall_mem_append.mpr
      ⟨asked derivation, List.forall_mem_singleton.mpr (pushedInRange derivation _)⟩
  | @bound frame _ _ _ derivation content =>
    have inside := by
      cases content with
      | single plain passes => exact passesInRange passes
      | several iterates elements => exact elementsInRange elements
    exact List.forall_mem_append.mpr ⟨asked derivation, List.forall_mem_cons.mpr
      ⟨trivial, List.forall_mem_append.mpr ⟨inside, List.forall_mem_singleton.mpr trivial⟩⟩⟩

end Level

theorem Stopped.shows {spec : Spec} {position : LoopPosition} {error : ActionError}
    {events : List (Event H)} (stopped : Stopped action spec position error events) :
    ∃ event ∈ events, Failing action error event := by
  have halted {completed} {events : List (Event H)} (halted : Halted action completed error events) :
      ∃ event ∈ events, Failing action error event := by
    cases halted with
    | halted inOrder failing closing => exact ⟨_, by simp, failing⟩
  cases stopped with
  | outside binding => exact ⟨_, List.mem_append_right _ (List.mem_singleton_self _), .unbound⟩
  | alone plain binding stop =>
    obtain ⟨event, member, failing⟩ := halted stop
    exact ⟨event, by simp [member], failing⟩
  | element iterates binding earlier captured here stop =>
    obtain ⟨event, member, failing⟩ := halted stop
    exact ⟨event, by simp [member], failing⟩

/-- No element that the run of the action asks for is missing. An error that says so is one that
its handler came up with. -/
structure KeepsRange (action : Action) (events : List (Event H)) (result : Except ActionError Unit) :
    Prop where
  inRange : ∀ event ∈ own events, event.InRange
  returned : ∀ position index length,
    result = .error ((ActionError.binding (.iterationOutOfRange index length)).within action position) →
    .returned action (.error (.binding (.iterationOutOfRange index length))) ∈ own events

namespace Interpreter

theorem bodyKeepsRange {interpreter : Interpreter H} {action : Action} {stack : Stack H.Item}
    {result : Except PlacedError Unit} {events : List (Event H)}
    (body : Level.Body interpreter action stack result (own events)) :
    KeepsRange action events (placed action result) := by
  refine ⟨Level.bodyInRange body, ?_⟩
  intro position index length failed
  obtain ⟨place, cause, rfl, same⟩ := placedError failed
  cases same
  obtain ⟨event, member, failing⟩ := (Level.bodyStopped body).shows
  have inRange := Level.bodyInRange body event member
  cases failing with
  | unbound => exact absurd rfl (inRange index length)
  | handler => exact member

theorem elementsCaptured {interpreter : Interpreter H}
    (handlers : interpreter.HandlersRestore ∨ interpreter.HandlersStay) {fuel : Nat}
    {action : Action} {expression : String} {machine : Machine H} {outcome : Outcome H ActionError Unit}
    (iterates : action.iterate? = some expression)
    (ended : interpreter.runAction fuel action machine = some outcome) :
    ∃ inner result, outcome.events = .entered action :: (inner ++ [.left action outcome.result]) ∧
      outcome.result = placed action result ∧
      Snapshot interpreter action expression machine.stack result (own inner) ∧
      KeepsRange action inner outcome.result ∧ Nested KeepsRange inner := by
  obtain ⟨inner, result, events, same, body, nested⟩ := runActionTold (P := KeepsRange)
    (handlers.elim id restoreOfStay) (fun _ _ _ _ _ => bodyKeepsRange) ended
  refine ⟨inner, result, events, same, Level.bodySnapshot iterates body, ?_, nested⟩
  rw [same]
  exact bodyKeepsRange body

end Interpreter

def Counting.iterated : Action := action "watch" [("iterate", "all"), ("while", "more")] []

theorem Interpreter.elementsCapturedTwo : ∃ outcome inner result,
    Counting.interpreter.runAction 4 Counting.iterated Counting.machine = some outcome ∧
      Counting.failure? outcome =
        some (.inAction "watch" none ⟨some 2, some 2⟩ (.failed "too late" none)) ∧
      outcome.events = .entered Counting.iterated :: (inner ++ [.left Counting.iterated outcome.result]) ∧
      Snapshot Counting.interpreter Counting.iterated "all" Counting.machine.stack result (own inner) ∧
      KeepsRange Counting.iterated inner outcome.result := by
  have failed :
      (Counting.interpreter.runAction 4 Counting.iterated Counting.machine).map Counting.failure? =
      some (some (.inAction "watch" none ⟨some 2, some 2⟩ (.failed "too late" none))) := by
    decide +kernel
  obtain ⟨outcome, ended, failure⟩ := Option.map_eq_some_iff.mp failed
  have iterates : Counting.iterated.iterate? = some "all" := by decide +kernel
  obtain ⟨inner, result, events, _, snapshot, ranged, _⟩ :=
    elementsCaptured (.inr Counting.handlersStay) iterates ended
  exact ⟨outcome, inner, result, ended, failure, events, snapshot, ranged⟩

end ActionTree

import ActionTree.Proofs.Telling

/-! The place that an error carries for the loops of its action is where they stood. It is read
off the events of the level of the action, those before the failure being in order. -/
namespace ActionTree
open Binding (Frame)
variable {H : Host} (action : Action)

/-- Shows a failure of the level of the action, and what went wrong. -/
inductive Failing : ActionError → Event H → Prop where
  | guard {request error} :
      Failing (.evaluation error) (.evaluated .guard .items request (.error error))
  | undecided {guard expression request} {items : List H.Item}
      (present : action.guard? guard = some expression)
      (undecided : items.head?.bind H.truth? = none) :
      Failing (.notBoolean guard expression) (.evaluated .guard .items request (.ok items))
  | unknown {name} : Failing (.unknownAction name) (.lookedUp name false)
  | unbound {spec error depth} :
      Failing (.binding error) (.pushed .interpreter spec (.error error) depth)
  | handler {error} : Failing error (.returned action (.error error))

def Event.Completes : Event H → Bool
  | .returned _ (.ok ()) => true
  | _ => false

def Event.BeginsElement : Event H → Prop
  | .iterated .interpreter _ _ _ => True
  | _ => False

/-- Events within one element without a failure, and how many executions they complete. -/
structure InOrder (completed : Nat) (events : List (Event H)) : Prop where
  unfailing : ∀ event ∈ events, ∀ error, ¬ Failing action error event
  together : ∀ event ∈ events, ¬ event.BeginsElement
  counted : events.countP Event.Completes = completed

/-- Events within one element up to a failure, after which frames are only taken off. -/
inductive Halted : (completed : Nat) → ActionError → List (Event H) → Prop where
  | halted {completed error before last after} (inOrder : InOrder action completed before)
      (failing : Failing action error last)
      (closing : ∀ event ∈ after, ∃ depth, event = .popped .interpreter depth) :
      Halted completed error (before ++ last :: after)

/-- Elements that were processed completely, the first of which has the given index. -/
inductive Completed : (index count : Nat) → List (Event H) → Prop where
  | none {index} : Completed index 0 []
  | next {index count completed frame depth depth' events rest}
      (inOrder : InOrder action completed events) (more : Completed (index + 1) count rest) :
      Completed index (count + 1) (.iterated .interpreter index (.ok frame) depth ::
        (events ++ [.popped .interpreter depth']) ++ rest)

/-- Where a body stopped, by the events of its level: in the request of its frame, in its sole
run, or in an element, all earlier ones being complete and no later one begun. -/
inductive Stopped (spec : Binding.Spec) : LoopPosition → ActionError → List (Event H) → Prop where
  | outside {events error depth}
      (binding : ∀ event ∈ events, ∃ request answer,
        event = .evaluated .binding .items request answer) :
      Stopped spec .outside (.binding error)
        (events ++ [.pushed .interpreter spec (.error error) depth])
  | alone {events frame depth completed error events'} (plain : action.iterate? = none)
      (binding : ∀ event ∈ events, ∃ request answer, event = .evaluated .binding .items request answer)
      (halted : Halted action completed error events') :
      Stopped spec ⟨none, Level.passOf? action (completed + 1)⟩ error
        (events ++ .pushed .interpreter spec (.ok frame) depth :: events')
  | element {events frame depth index done element depth' completed error events'}
      (iterates : action.iterate?.isSome)
      (binding : ∀ event ∈ events, ∃ request answer, event = .evaluated .binding .items request answer)
      (earlier : Completed action 1 index done) (captured : index < frame.focus.items.length)
      (here : element.contextItem? = frame.focus.items[index]?)
      (halted : Halted action completed error events') :
      Stopped spec ⟨some (index + 1), Level.passOf? action (completed + 1)⟩ error
        (events ++ .pushed .interpreter spec (.ok frame) depth ::
          (done ++ .iterated .interpreter (index + 1) (.ok element) depth' :: events'))

/-- What a reader of the events of a level can tell of its loops. -/
structure Tally where
  grounded : Bool
  elements : Nat
  executions : Nat

namespace Tally

def start : Tally := ⟨false, 0, 0⟩

/-- A new element begins to count executions anew. -/
def advance (tally : Tally) : Event H → Tally
  | .pushed .interpreter _ (.ok _) _ => { tally with grounded := true }
  | .iterated .interpreter _ (.ok _) _ =>
      { tally with elements := tally.elements + 1, executions := 0 }
  | .returned _ (.ok ()) => { tally with executions := tally.executions + 1 }
  | _ => tally

def position (tally : Tally) : LoopPosition :=
  if tally.grounded then
    { element? := if action.iterate?.isSome then some tally.elements else none,
      pass? := Level.passOf? action (tally.executions + 1) }
  else .outside

def through (events : List (Event H)) : Tally := events.foldl advance start

end Tally

section
variable {action}

namespace InOrder

theorem append {first second : Nat} {before after : List (Event H)}
    (head : InOrder action first before) (tail : InOrder action second after) :
    InOrder action (first + second) (before ++ after) where
  unfailing event member :=
    (List.mem_append.mp member).elim (head.unfailing event) (tail.unfailing event)
  together event member :=
    (List.mem_append.mp member).elim (head.together event) (tail.together event)
  counted := by rw [List.countP_append, head.counted, tail.counted]

theorem nil : InOrder action 0 ([] : List (Event H)) := ⟨by simp, by simp, rfl⟩

theorem cons {event : Event H} {completed : Nat} {events : List (Event H)}
    (unfailing : ∀ error, ¬ Failing action error event) (together : ¬ event.BeginsElement)
    (incomplete : event.Completes = false) (rest : InOrder action completed events) :
    InOrder action completed (event :: events) where
  unfailing := List.forall_mem_cons.mpr ⟨unfailing, rest.unfailing⟩
  together := List.forall_mem_cons.mpr ⟨together, rest.together⟩
  counted := by rw [List.countP_cons, incomplete, rest.counted]; rfl

theorem completing {completed : Nat} {events : List (Event H)}
    (rest : InOrder action completed events) :
    InOrder action (completed + 1) (.returned action (.ok ()) :: events) where
  unfailing := List.forall_mem_cons.mpr ⟨nofun, rest.unfailing⟩
  together := List.forall_mem_cons.mpr ⟨id, rest.together⟩
  counted := by rw [List.countP_cons, rest.counted]; rfl

theorem ofBinding {events : List (Event H)}
    (binding : ∀ event ∈ events, ∃ request answer, event = .evaluated .binding .items request answer) :
    InOrder action 0 events := by
  induction events with
  | nil => exact nil
  | cons event rest ih =>
    obtain ⟨⟨request, answer, rfl⟩, others⟩ := List.forall_mem_cons.mp binding
    exact cons nofun id rfl (ih others)

end InOrder

namespace Halted

theorem after {first second : Nat} {error : ActionError} {before events : List (Event H)}
    (head : InOrder action first before) (halted : Halted action second error events) :
    Halted action (first + second) error (before ++ events) := by
  obtain ⟨inOrder, failing, closing⟩ := halted
  rw [← List.append_assoc]
  exact .halted (head.append inOrder) failing closing

theorem afterQuiet {completed : Nat} {error : ActionError} {before events : List (Event H)}
    (head : InOrder action 0 before) (halted : Halted action completed error events) :
    Halted action completed error (before ++ events) := by
  have whole := halted.after head
  rwa [Nat.zero_add] at whole

theorem closed {completed : Nat} {error : ActionError} {events : List (Event H)}
    (halted : Halted action completed error events) (depth : Nat) :
    Halted action completed error (events ++ [.popped .interpreter depth]) := by
  obtain ⟨inOrder, failing, closing⟩ := halted
  rw [List.append_assoc]
  refine .halted inOrder failing fun event member => ?_
  rcases List.mem_append.mp member with early | last
  · exact closing event early
  · exact ⟨depth, List.mem_singleton.mp last⟩

theorem here {error : ActionError} {event : Event H} (failing : Failing action error event) :
    Halted action 0 error [event] :=
  .halted .nil failing (List.forall_mem_nil _)

end Halted

namespace Level
variable {interpreter : Interpreter H} {stack : Binding.Stack H.Item}
  {item? overridden? : Option H.Item}

theorem unfailingTruth {request : Request H.Item} {items : List H.Item} {value : Bool}
    (truth : items.head?.bind H.truth? = some value) (error : ActionError) :
    ¬ Failing action error (.evaluated .guard .items request (.ok items) : Event H) := by
  intro failing
  cases failing with
  | undecided present undecided => exact absurd (truth.symm.trans undecided) nofun

theorem checkInOrder {guard : Guard} {value : Bool} {events : List (Event H)}
    (check : Check interpreter action stack item? guard (.ok value) events) :
    InOrder action 0 events := by
  cases check with
  | absent absent => exact .nil
  | missing present missing => exact .cons nofun id rfl .nil
  | holds present here truth => exact .cons (unfailingTruth truth) id rfl .nil
  | fails present here truth =>
    exact .cons (unfailingTruth truth) id rfl (.cons nofun id rfl .nil)

theorem checkHalted {guard : Guard} {error : ActionError} {events : List (Event H)}
    (check : Check interpreter action stack item? guard (.error error) events) :
    Halted action 0 error events := by
  cases check with
  | failed present here => exact .here .guard
  | undecided present here undecided => exact .here (.undecided present undecided)

theorem clearanceInOrder {value : Bool} {events : List (Event H)}
    (clearance : Clearance interpreter action stack item? (.ok value) events) :
    InOrder action 0 events := by
  cases clearance with
  | first unmet check => exact checkInOrder check
  | both check next => exact (checkInOrder check).append (checkInOrder next)

theorem clearanceHalted {error : ActionError} {events : List (Event H)}
    (clearance : Clearance interpreter action stack item? (.error error) events) :
    Halted action 0 error events := by
  cases clearance with
  | first unmet check => exact checkHalted check
  | both check next => exact (checkHalted next).afterQuiet (checkInOrder check)

theorem openingInOrder : InOrder action 0 (opening interpreter action true) :=
  .cons nofun id rfl (.cons nofun id rfl .nil)

theorem executionInOrder {events : List (Event H)}
    (execution : Execution interpreter action stack overridden? (.ok ()) events) :
    InOrder action 1 events := by
  cases execution with
  | done found bound =>
    cases bound with
    | @bound frame _ _ _ derivation body =>
      cases body
      have handled : InOrder action 1
          (.pushed .interpreter (interpreter.targetSpec action) (.ok frame) (stack.push frame).depth ::
            [.dispatched action overridden? frame, .returned action (.ok ()),
              .popped .interpreter stack.depth]) :=
        .cons nofun id rfl (.cons nofun id rfl (.completing (.cons nofun id rfl .nil)))
      have bound := (InOrder.ofBinding derivation.evaluates).append handled
      have closing : InOrder action 0 [interpreter.logged .done] := .cons nofun id rfl .nil
      exact openingInOrder.append (bound.append closing)

theorem executionHalted {error : ActionError} {events : List (Event H)}
    (execution : Execution interpreter action stack overridden? (.error error) events) :
    Halted action 0 error events := by
  cases execution with
  | unknown unknown =>
    have opened : InOrder action 0 [interpreter.logged .executing] := .cons nofun id rfl .nil
    exact .afterQuiet opened (.here .unknown)
  | failed found bound =>
    refine .afterQuiet openingInOrder ?_
    cases bound with
    | unbound derivation => exact .afterQuiet (.ofBinding derivation.evaluates) (.here .unbound)
    | @bound frame _ _ _ derivation body =>
      cases body
      have dispatched : InOrder action 0
          (.pushed .interpreter (interpreter.targetSpec action) (.ok frame) (stack.push frame).depth ::
            [.dispatched action overridden? frame]) := .cons nofun id rfl (.cons nofun id rfl .nil)
      have failed : Halted action 0 error [.returned action (.error error) (H := H)] := .here .handler
      exact .afterQuiet (.ofBinding derivation.evaluates)
        ((failed.afterQuiet dispatched).closed stack.depth)

theorem passInOrder {pass? : Option Nat} {executed : Bool} {events : List (Event H)}
    (passed : Pass interpreter action stack item? overridden? pass? (.ok executed) events) :
    InOrder action executed.toNat events := by
  cases passed with
  | held clearance => exact clearanceInOrder clearance
  | executed clearance execution =>
    exact (clearanceInOrder clearance).append (executionInOrder execution)

theorem passHalted {pass? : Option Nat} {error : ActionError} {events : List (Event H)}
    (passed : Pass interpreter action stack item? overridden? pass? (.error error) events) :
    Halted action 0 error events := by
  cases passed with
  | unclear clearance => exact clearanceHalted clearance
  | failed clearance execution =>
    exact (executionHalted execution).afterQuiet (clearanceInOrder clearance)

theorem passesInOrder {pass : Nat} {events : List (Event H)}
    (passes : Passes interpreter action stack item? overridden? pass (.ok ()) events) :
    ∃ completed, InOrder action completed events := by
  generalize ended : Except.ok () = result at passes
  induction passes with
  | failed last => cases ended
  | held last => exact ⟨0, passInOrder last⟩
  | once once last => exact ⟨1, passInOrder last⟩
  | again repeats first rest ih =>
    obtain ⟨completed, inOrder⟩ := ih ended
    exact ⟨1 + completed, (passInOrder first).append inOrder⟩

theorem passesHalted {pass : Nat} {error : Interpreter.PlacedError} {events : List (Event H)}
    (passes : Passes interpreter action stack item? overridden? pass (.error error) events) :
    ∃ completed cause, error = Interpreter.inPass (passOf? action (pass + completed)) cause ∧
      Halted action completed cause events := by
  -- Only the last pass fails; each one before it has completed one execution.
  generalize failed : Except.error error = result at passes
  induction passes with
  | failed last =>
    cases failed
    exact ⟨0, _, rfl, passHalted last⟩
  | held last => cases failed
  | once once last => cases failed
  | @again pass _ _ _ repeats first rest ih =>
    obtain ⟨completed, cause, placed, halted⟩ := ih failed
    rw [Nat.add_assoc] at placed
    exact ⟨1 + completed, cause, placed, halted.after (passInOrder first)⟩

theorem elementsHalted {elements : List H.Item} {index : Nat} {error : Interpreter.PlacedError}
    {events : List (Event H)}
    (ended : Elements interpreter action stack elements index (.error error) events) :
    ∃ count completed cause done frame events', count < elements.length ∧
      stack.elementFrame (index + count) = .ok frame ∧
      error = Interpreter.inElement (index + count)
        (Interpreter.inPass (passOf? action (completed + 1)) cause) ∧
      Completed action index count done ∧ Halted action completed cause events' ∧
      events = done ++
        .iterated .interpreter (index + count) (.ok frame) (stack.push frame).depth :: events' := by
  -- `count` elements come before the failed one, and the index moves along with them.
  generalize failed : Except.error error = result at ended
  induction ended with
  | none => cases failed
  | @failed element rest index frame error events derived passes =>
    cases failed
    obtain ⟨completed, cause, rfl, halted⟩ := passesHalted passes
    rw [Nat.add_comm]
    refine ⟨0, completed, cause, [], frame, _, Nat.succ_pos _, derived, rfl, .none, ?_, rfl⟩
    exact halted.closed stack.depth
  | @next _ _ _ frame _ _ _ derived passes more ih =>
    obtain ⟨count, completed, cause, done, last, events', captured, derived', placed, earlier,
      halted, rfl⟩ := ih failed
    obtain ⟨executions, inOrder⟩ := passesInOrder passes
    rw [Nat.add_assoc, Nat.add_comm 1] at derived' placed
    have earlier' : Completed action _ (count + 1) (framed stack _ frame _ ++ done) :=
      .next inOrder earlier
    refine ⟨count + 1, completed, cause, _, last, events', Nat.succ_lt_succ captured, derived', placed,
      earlier', halted, ?_⟩
    rw [List.append_assoc, Nat.add_assoc, Nat.add_comm 1]

theorem elementItems {frame : Frame H.Item} {index : Nat}
    (derived : stack.elementFrame index = .ok frame) :
    frame.contextItem? = Focus.itemAt? stack.current.focus.items index ∧
      frame.single? = frame.contextItem? := by
  unfold Binding.Stack.elementFrame at derived
  dsimp only at derived
  split at derived
  · cases derived
    exact ⟨rfl, rfl⟩
  · cases derived

theorem bodyStopped {error : Interpreter.PlacedError} {events : List (Event H)}
    (body : Body interpreter action stack (.error error) events) :
    Stopped action (interpreter.groundSpec action) error.1 error.2 events := by
  generalize failed : Except.error error = result at body
  cases body with
  | unbound derivation =>
    cases failed
    exact .outside derivation.evaluates
  | @bound frame _ _ _ derivation content =>
    subst failed
    cases content with
    | single plain passes =>
      obtain ⟨completed, cause, rfl, halted⟩ := passesHalted passes
      rw [Nat.add_comm]
      exact .alone plain derivation.evaluates (halted.closed stack.depth)
    | several iterates elements =>
      obtain ⟨count, completed, cause, done, last, events', captured, derived, rfl, earlier,
        halted, rfl⟩ := elementsHalted elements
      rw [Nat.add_comm] at derived ⊢
      rw [List.append_assoc]
      exact .element iterates derivation.evaluates earlier captured (elementItems derived).1
        (halted.closed stack.depth)

end Level

theorem Halted.counts {completed : Nat} {error : ActionError} {events : List (Event H)}
    (halted : Halted action completed error events) :
    (∀ event ∈ events, ¬ event.BeginsElement) ∧ events.countP Event.Completes = completed := by
  cases halted with
  | @halted before last after inOrder failing closing =>
    have last : ¬ last.BeginsElement ∧ last.Completes = false := by
      cases failing <;> exact ⟨id, rfl⟩
    constructor
    · intro event member
      rcases List.mem_append.mp member with early | late
      · exact inOrder.together event early
      rcases List.mem_cons.mp late with rfl | late
      · exact last.1
      · obtain ⟨depth, rfl⟩ := closing event late
        exact id
    · rw [List.countP_append, inOrder.counted, List.countP_cons, last.2, List.countP_eq_zero.mpr]
      · rfl
      · intro event member
        obtain ⟨depth, rfl⟩ := closing event member
        exact nofun

namespace Tally

theorem advanceTogether (elements executions : Nat) {event : Event H}
    (together : ¬ event.BeginsElement) :
    advance ⟨true, elements, executions⟩ event =
      ⟨true, elements, executions + if event.Completes then 1 else 0⟩ := by
  cases event with
  | pushed caller spec result depth => cases caller <;> cases result <;> rfl
  | iterated caller index result depth =>
    cases caller with
    | interpreter => exact absurd trivial together
    | handler => rfl
  | returned action result => cases result <;> rfl
  | _ => rfl

-- Executions are all that counts as long as no new element begins.
theorem throughTogether (elements executions : Nat) {events : List (Event H)}
    (together : ∀ event ∈ events, ¬ event.BeginsElement) :
    events.foldl advance ⟨true, elements, executions⟩ =
      ⟨true, elements, executions + events.countP Event.Completes⟩ := by
  induction events generalizing executions with
  | nil => rfl
  | cons event rest ih =>
    obtain ⟨here, later⟩ := List.forall_mem_cons.mp together
    rw [List.foldl_cons, advanceTogether elements executions here, ih _ later, List.countP_cons,
      Nat.add_assoc, Nat.add_comm (rest.countP _)]

theorem throughCompleted {index count : Nat} {events : List (Event H)}
    (completed : Completed action index count events) (elements executions : Nat) :
    ∃ executions', events.foldl advance ⟨true, elements, executions⟩ =
      ⟨true, elements + count, executions'⟩ := by
  induction completed generalizing elements executions with
  | none => exact ⟨executions, rfl⟩
  | @next _ count completed _ _ depth' events _ inOrder more ih =>
    obtain ⟨executions', rest⟩ := ih (elements + 1) completed
    refine ⟨executions', ?_⟩
    rw [List.cons_append, List.foldl_cons, List.append_assoc, List.foldl_append,
      List.singleton_append, List.foldl_cons]
    change List.foldl _ (advance (List.foldl _ (⟨true, elements + 1, 0⟩ : Tally) _) _) _ = _
    rw [throughTogether _ _ inOrder.together, inOrder.counted, Nat.zero_add]
    change List.foldl _ (⟨true, elements + 1, completed⟩ : Tally) _ = _
    rw [rest, Nat.add_assoc, Nat.add_comm 1]

theorem throughBinding (tally : Tally) {events : List (Event H)}
    (binding : ∀ event ∈ events, ∃ request answer, event = .evaluated .binding .items request answer) :
    events.foldl advance tally = tally := by
  induction events with
  | nil => rfl
  | cons event rest ih =>
    obtain ⟨⟨request, answer, rfl⟩, others⟩ := List.forall_mem_cons.mp binding
    exact ih others

theorem ofStopped {spec : Binding.Spec} {position : LoopPosition} {error : ActionError}
    {events : List (Event H)} (stopped : Stopped action spec position error events) :
    (through events).position action = position := by
  cases stopped with
  | outside binding =>
    rw [through, List.foldl_append, throughBinding _ binding]
    rfl
  | alone plain binding halted =>
    rw [through, List.foldl_append, throughBinding _ binding, List.foldl_cons]
    change (List.foldl _ (⟨true, 0, 0⟩ : Tally) _).position action = _
    rw [throughTogether _ _ halted.counts.1, halted.counts.2]
    simp [position, plain]
  | element iterates binding earlier captured here halted =>
    -- What the earlier elements executed is forgotten when the last one begins.
    obtain ⟨executions, done⟩ := throughCompleted earlier 0 0
    rw [through, List.foldl_append, throughBinding _ binding, List.foldl_cons, List.foldl_append]
    change (List.foldl _ (List.foldl _ (⟨true, 0, 0⟩ : Tally) _) _).position action = _
    rw [done, List.foldl_cons]
    change (List.foldl _ (⟨true, _, 0⟩ : Tally) _).position action = _
    rw [throughTogether _ _ halted.counts.1, halted.counts.2]
    simp [position, iterates]

end Tally
end

/-- A failed run of an action carries the place its own loops had reached, which the events of
its own level tell, and its cause is the failure they show. -/
def FailsInPlace (interpreter : Interpreter H) (action : Action) (events : List (Event H))
    (result : Except ActionError Unit) : Prop :=
  ∀ error, result = .error error → ∃ cause,
    let position := (Tally.through (own events)).position action
    error = cause.within action position ∧
      Stopped action (interpreter.groundSpec action) position cause (own events)

namespace Interpreter

theorem failurePosition {interpreter : Interpreter H}
    (handlers : interpreter.HandlersRestore ∨ interpreter.HandlersStay)
    {fuel : Nat} {action : Action} {machine : Machine H} {outcome : Outcome H ActionError Unit}
    (ended : interpreter.runAction fuel action machine = some outcome) :
    ∃ inner, outcome.events = .entered action :: (inner ++ [.left action outcome.result]) ∧
      FailsInPlace interpreter action inner outcome.result ∧
      Nested (FailsInPlace interpreter) inner := by
  have levels (spans : List Span) (action : Action) (stack : Binding.Stack H.Item)
      (result : Except PlacedError Unit) (events : List (Event H))
      (body : Level.Body { interpreter with spans } action stack result (own events)) :
      FailsInPlace interpreter action events (placed action result) := by
    intro error failed
    cases result with
    | ok value => cases failed
    | error located =>
      cases failed
      have stopped := Level.bodyStopped body
      refine ⟨located.2, ?_⟩
      dsimp only
      rw [Tally.ofStopped stopped]
      exact ⟨rfl, stopped⟩
  obtain ⟨inner, result, events, same, body, nested⟩ :=
    runActionTold (handlers.elim id restoreOfStay) levels ended
  refine ⟨inner, events, ?_, nested⟩
  rw [same]
  exact levels interpreter.spans action machine.stack result inner body

end Interpreter

def Counting.failure? (outcome : Outcome Counting.host ActionError Unit) : Option ActionError :=
  match outcome.result with
  | .error error => some error
  | .ok _ => none

theorem Counting.failureEq {outcome : Outcome Counting.host ActionError Unit} {error : ActionError}
    (failure : Counting.failure? outcome = some error) : outcome.result = .error error := by
  unfold Counting.failure? at failure
  split at failure
  · cases failure
    assumption
  · cases failure

theorem Interpreter.failurePositionInBlock : ∃ outcome,
    Counting.interpreter.runAction 4 Counting.block Counting.machine = some outcome ∧
      Counting.failure? outcome = some (.inAction "block" none .outside
        (.inAction "watch" none ⟨some 2, some 2⟩ (.failed "too late" none))) ∧
      ∃ inner, outcome.events =
          .entered Counting.block :: (inner ++ [.left Counting.block outcome.result]) ∧
        FailsInPlace Counting.interpreter Counting.block inner outcome.result ∧
        Nested (FailsInPlace Counting.interpreter) inner := by
  have failed :
      (Counting.interpreter.runAction 4 Counting.block Counting.machine).map Counting.failure? =
      some (some (.inAction "block" none .outside
        (.inAction "watch" none ⟨some 2, some 2⟩ (.failed "too late" none)))) := by decide +kernel
  obtain ⟨outcome, ended, failure⟩ := Option.map_eq_some_iff.mp failed
  exact ⟨outcome, ended, failure, failurePosition (.inr Counting.handlersStay) ended⟩

end ActionTree

import ActionTree.Proofs.Level

/-! The course of a run: its whole journal, with what executions of handlers did, and whatever was
on the stack. Elements, passes and children follow one another in their order, and a failure
leaves out those that were still to come. -/
namespace ActionTree
open Binding (Stack Frame Spec Derivation)
variable {H : Host}

/-- One after the other, up to the first that fails. -/
inductive InTurn {ι ε : Type} (part : ι → Except ε Unit → List (Event H) → Prop) :
    List ι → Except ε Unit → List (Event H) → Prop where
  | none : InTurn part [] (.ok ()) []
  | failed {first rest error events} (failed : part first (.error error) events) :
      InTurn part (first :: rest) (.error error) events
  | next {first rest result events events'} (went : part first (.ok ()) events)
      (more : InTurn part rest result events') : InTurn part (first :: rest) result (events ++ events')

theorem InTurn.mono {ι ε : Type} {part part' : ι → Except ε Unit → List (Event H) → Prop}
    {whole : List ι} {result : Except ε Unit} {events : List (Event H)}
    (weaker : ∀ {first result events}, part first result events → part' first result events)
    (turn : InTurn part whole result events) : InTurn part' whole result events := by
  induction turn with
  | none => exact .none
  | failed failed => exact .failed (weaker failed)
  | next went _ ih => exact .next (weaker went) ih

namespace Course

inductive Requested (spec : Spec) : Except BindingError (Frame H.Item) → List (Event H) → Prop where
  | requested {stack result events depth} (derivation : Derivation stack spec result events) :
      Requested spec result (events ++ [.pushed .interpreter spec result depth])

inductive Indexed (index : Nat) : Except BindingError (Frame H.Item) → List (Event H) → Prop where
  | indexed {depth} (stack : Stack H.Item) :
      Indexed index (stack.elementFrame index)
        [.iterated .interpreter index (stack.elementFrame index) depth]

section
variable (interpreter : Interpreter H)

/-- Something done in a frame of its own, which is taken off again in any case. -/
inductive Framed {ε : Type} (opens : Except BindingError (Frame H.Item) → List (Event H) → Prop)
    (change : BindingError → ε) (inside : Frame H.Item → Except ε Unit → List (Event H) → Prop) :
    Except ε Unit → List (Event H) → Prop where
  | refused {error events} (refused : opens (.error error) events) :
      Framed opens change inside (.error (change error)) events
  | framed {frame result events events'} (stack : Stack H.Item) (opened : opens (.ok frame) events)
      (body : inside frame result events') :
      Framed opens change inside result
        (events ++ (events' ++ Binding.poppings .interpreter interpreter.spans stack))

variable {interpreter} in
theorem Framed.mono {ε : Type} {opens : Except BindingError (Frame H.Item) → List (Event H) → Prop}
    {change : BindingError → ε}
    {inside inside' : Frame H.Item → Except ε Unit → List (Event H) → Prop}
    {result : Except ε Unit} {events : List (Event H)}
    (weaker : ∀ {frame result events}, inside frame result events → inside' frame result events)
    (framed : Framed interpreter opens change inside result events) :
    Framed interpreter opens change inside' result events := by
  cases framed with
  | refused refused => exact .refused refused
  | framed stack opened body => exact .framed stack opened (weaker body)

/-- A program, call by call. What comes next depends on the answer, a failure being one. -/
inductive Performed (run : Action → Except ActionError Unit → List (Event H) → Prop) {α : Type} :
    Program H α → Except ActionError α → List (Event H) → Prop where
  | done {value} : Performed run (.done value) (.ok value) []
  | fail {error} : Performed run (.fail error) (.error error) []
  | ask {call next result events} (machine : Machine H)
      (more : Performed run (next (interpreter.answer call machine).result) result events) :
      Performed run (.ask call next) result ((interpreter.answer call machine).events ++ events)
  | run {action next ended result events events'} (ran : run action ended events)
      (more : Performed run (next ended) result events') :
      Performed run (.run action next) result (events ++ events')

end
section
variable (interpreter : Interpreter H) (action : Action)
  (execution : List Span → Program H Unit → Except ActionError Unit → List (Event H) → Prop)

inductive Handled (handler : Handler H) (overridden? : Option H.Item) (frame : Frame H.Item) :
    Except ActionError Unit → List (Event H) → Prop where
  | handled {result events} (executed : execution interpreter.spans
      (handler (interpreter.dispatch action overridden?)) result events) :
      Handled handler overridden? frame result
        (.dispatched action overridden? frame :: (events ++ [.returned action result]))

inductive Executed (overridden? : Option H.Item) :
    Except ActionError Unit → List (Event H) → Prop where
  | unknown (unknown : interpreter.handlerFor action.name = none) :
      Executed overridden? (.error (.unknownAction action.name))
        (Level.opening interpreter action false)
  | failed {handler error events} (known : interpreter.handlerFor action.name = some handler)
      (framed : Framed interpreter (Requested (interpreter.targetSpec action)) .binding
        (Handled interpreter action execution handler overridden?) (.error error) events) :
      Executed overridden? (.error error) (Level.opening interpreter action true ++ events)
  | done {handler events} (known : interpreter.handlerFor action.name = some handler)
      (framed : Framed interpreter (Requested (interpreter.targetSpec action)) .binding
        (Handled interpreter action execution handler overridden?) (.ok ()) events) :
      Executed overridden? (.ok ())
        (Level.opening interpreter action true ++ (events ++ [interpreter.logged .done]))

inductive Passed (item? overridden? : Option H.Item) (pass? : Option Nat) :
    Except ActionError Bool → List (Event H) → Prop where
  | unclear {stack error events}
      (clearance : Level.Clearance interpreter action stack item? (.error error) events) :
      Passed item? overridden? pass? (.error error) events
  | held {stack events}
      (clearance : Level.Clearance interpreter action stack item? (.ok false) events) :
      Passed item? overridden? pass? (.ok false) events
  | failed {stack error events events'}
      (clearance : Level.Clearance interpreter action stack item? (.ok true) events)
      (executed : Executed (Level.within interpreter action pass?) action execution overridden?
        (.error error) events') :
      Passed item? overridden? pass? (.error error) (events ++ events')
  | executed {stack events events'}
      (clearance : Level.Clearance interpreter action stack item? (.ok true) events)
      (executed : Executed (Level.within interpreter action pass?) action execution overridden?
        (.ok ()) events') :
      Passed item? overridden? pass? (.ok true) (events ++ events')

inductive Repeated (item? overridden? : Option H.Item) :
    (pass : Nat) → Except Interpreter.PlacedError Unit → List (Event H) → Prop where
  | failed {pass error events} (last : Passed interpreter action execution item? overridden?
      (Level.passOf? action pass) (.error error) events) :
      Repeated item? overridden? pass
        (.error (Interpreter.inPass (Level.passOf? action pass) error)) events
  | held {pass events} (last : Passed interpreter action execution item? overridden?
      (Level.passOf? action pass) (.ok false) events) :
      Repeated item? overridden? pass (.ok ()) events
  | once {pass events} (once : action.guard? .asLongAs = none)
      (last : Passed interpreter action execution item? overridden? (Level.passOf? action pass)
        (.ok true) events) :
      Repeated item? overridden? pass (.ok ()) events
  | again {pass result events events'} (repeats : (action.guard? .asLongAs).isSome)
      (first : Passed interpreter action execution item? overridden? (Level.passOf? action pass)
        (.ok true) events)
      (rest : Repeated item? overridden? (pass + 1) result events') :
      Repeated item? overridden? pass result (events ++ events')

/-- An element, paired with its index. -/
inductive Element : H.Item × Nat → Except Interpreter.PlacedError Unit → List (Event H) → Prop where
  | element {item index result events} (framed : Framed interpreter (Indexed index)
      (fun error => Interpreter.inPass none (.binding error))
      (fun _ => Repeated interpreter action execution (some item) (some item) 1) result events) :
      Element (item, index) (result.mapError (Interpreter.inElement index)) events

inductive Content (frame : Frame H.Item) :
    Except Interpreter.PlacedError Unit → List (Event H) → Prop where
  | single {result events} (plain : action.iterate? = none)
      (passes : Repeated interpreter action execution frame.contextItem?
        (if frame.overridden then frame.contextItem? else none) 1 result events) :
      Content frame result events
  | several {result events} (iterates : action.iterate?.isSome)
      (elements : InTurn (Element interpreter action execution) (frame.focus.items.zipIdx 1)
        result events) :
      Content frame result events

def Body : Except Interpreter.PlacedError Unit → List (Event H) → Prop :=
  Framed interpreter (Requested (interpreter.groundSpec action))
    (fun error => Interpreter.inPass none (.binding error)) (Content interpreter action execution)

inductive Entered : Except ActionError Unit → List (Event H) → Prop where
  | entered {result events} (body : Body interpreter action execution result events) :
      Entered (Interpreter.placed action result)
        (.entered action :: (events ++ [.left action (Interpreter.placed action result)]))

end

/-- A program of a handler. One that runs actions one after the other does so in their order. -/
structure Ordered (interpreter : Interpreter H)
    (run : Action → Except ActionError Unit → List (Event H) → Prop) (program : Program H Unit)
    (result : Except ActionError Unit) (events : List (Event H)) : Prop where
  performed : Performed interpreter run program result events
  inTurn : ∀ actions, program = Program.runAll actions → InTurn run actions result events

/-- Runs of actions within runs of actions, up to a depth. -/
def Running : (depth : Nat) → Interpreter H → Action → Except ActionError Unit → List (Event H) → Prop
  | 0, _, _, _, _ => False
  | depth + 1, interpreter, action, result, events =>
      Entered interpreter action (fun spans => Ordered { interpreter with spans }
        (Running depth { interpreter with spans })) result events

section
variable {interpreter : Interpreter H}
  {run : Action → Except ActionError Unit → List (Event H) → Prop}
  {result : Except ActionError Unit} {events : List (Event H)}

theorem performedInTurn {actions : List Action}
    (performed : Performed interpreter run (Program.runAll actions) result events) :
    InTurn run actions result events := by
  induction actions generalizing events with
  | nil =>
    cases performed
    exact .none
  | cons action rest ih =>
    change Performed interpreter run
      (.run action fun ended => (Program.ofExcept ended).bind fun _ => Program.runAll rest)
      result events at performed
    cases performed with
    | @run _ _ ended _ _ _ ran more =>
      cases ended with
      | error error =>
        cases more
        rw [List.append_nil]
        exact .failed ran
      | ok value => exact .next ran (ih more)

theorem Performed.ordered {program : Program H Unit}
    (performed : Performed interpreter run program result events) :
    Ordered interpreter run program result events where
  performed := performed
  inTurn _ same := performedInTurn (same ▸ performed)

end
end Course
end ActionTree

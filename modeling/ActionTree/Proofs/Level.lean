import ActionTree.Proofs.Invariance

/-! What the run of one action adds to the journal itself, by the attributes of the action and
the answers it gets. Executions of its handler are left open: all that shows of one is its
result. Every relation holds between a result and the events on the way to it. -/
namespace ActionTree.Level
open Binding (Stack Frame Spec Derivation)
variable {H : Host}

def passOf? (action : Action) (pass : Nat) : Option Nat :=
  if (action.guard? .asLongAs).isSome then some pass else none

def within (interpreter : Interpreter H) (action : Action) (pass? : Option Nat) : Interpreter H :=
  { interpreter with spans := interpreter.spans ++ [⟨action.name, pass?⟩] }

/-- A body in the frame that a request gives, or nothing when the request fails. -/
inductive Bound {ε : Type} (stack : Stack H.Item) (spec : Spec) (change : BindingError → ε)
    (inside : Frame H.Item → Except ε Unit → List (Event H) → Prop) :
    Except ε Unit → List (Event H) → Prop where
  | unbound {error events} (derivation : Derivation stack spec (.error error) events) :
      Bound stack spec change inside (.error (change error))
        (events ++ [.pushed .interpreter spec (.error error) stack.depth])
  | bound {frame result events events'} (derivation : Derivation stack spec (.ok frame) events)
      (body : inside frame result events') :
      Bound stack spec change inside result
        (events ++ .pushed .interpreter spec (.ok frame) (stack.push frame).depth ::
          (events' ++ [.popped .interpreter stack.depth]))

section
variable (interpreter : Interpreter H) (action : Action) (stack : Stack H.Item)

def guardRequest (expression : String) (item : H.Item) : Request H.Item :=
  interpreter.request action stack.current ⟨[item], 1⟩ s!"boolean({expression})"

inductive Check (item? : Option H.Item) (guard : Guard) :
    Except ActionError Bool → List (Event H) → Prop where
  | absent (absent : action.guard? guard = none) : Check item? guard (.ok true) []
  | missing {expression} (present : action.guard? guard = some expression) (missing : item? = none) :
      Check item? guard (.ok false) [interpreter.logged (.skipped action.name guard .missingContext)]
  | failed {expression item error} (present : action.guard? guard = some expression)
      (here : item? = some item) :
      Check item? guard (.error (.evaluation error))
        [.evaluated .guard .items (guardRequest interpreter action stack expression item)
          (.error error)]
  | undecided {expression item} {items : List H.Item} (present : action.guard? guard = some expression)
      (here : item? = some item) (undecided : items.head?.bind H.truth? = none) :
      Check item? guard (.error (.notBoolean guard expression))
        [.evaluated .guard .items (guardRequest interpreter action stack expression item) (.ok items)]
  | holds {expression item} {items : List H.Item} (present : action.guard? guard = some expression)
      (here : item? = some item) (truth : items.head?.bind H.truth? = some true) :
      Check item? guard (.ok true)
        [.evaluated .guard .items (guardRequest interpreter action stack expression item) (.ok items)]
  | fails {expression item} {items : List H.Item} (present : action.guard? guard = some expression)
      (here : item? = some item) (truth : items.head?.bind H.truth? = some false) :
      Check item? guard (.ok false)
        [.evaluated .guard .items (guardRequest interpreter action stack expression item) (.ok items),
          interpreter.logged (.skipped action.name guard (.evaluatedFalse expression))]

inductive Clearance (item? : Option H.Item) : Except ActionError Bool → List (Event H) → Prop where
  | first {result events} (unmet : result ≠ .ok true)
      (check : Check interpreter action stack item? .onlyIf result events) :
      Clearance item? result events
  | both {result events events'}
      (check : Check interpreter action stack item? .onlyIf (.ok true) events)
      (next : Check interpreter action stack item? .asLongAs result events') :
      Clearance item? result (events ++ events')

/-- An execution of the handler, with nothing of what it did. -/
inductive Handled (overridden? : Option H.Item) (frame : Frame H.Item) :
    Except ActionError Unit → List (Event H) → Prop where
  | handled {result} : Handled overridden? frame result
      [.dispatched action overridden? frame, .returned action result]

def opening (found : Bool) : List (Event H) :=
  [interpreter.logged .executing, .lookedUp action.name found]

inductive Execution (overridden? : Option H.Item) :
    Except ActionError Unit → List (Event H) → Prop where
  | unknown (unknown : interpreter.handlerFor action.name = none) :
      Execution overridden? (.error (.unknownAction action.name)) (opening interpreter action false)
  | failed {handler error events} (found : interpreter.handlerFor action.name = some handler)
      (bound : Bound stack (interpreter.targetSpec action) .binding (Handled action overridden?)
        (.error error) events) :
      Execution overridden? (.error error) (opening interpreter action true ++ events)
  | done {handler events} (found : interpreter.handlerFor action.name = some handler)
      (bound : Bound stack (interpreter.targetSpec action) .binding (Handled action overridden?)
        (.ok ()) events) :
      Execution overridden? (.ok ())
        (opening interpreter action true ++ (events ++ [interpreter.logged .done]))

inductive Pass (item? overridden? : Option H.Item) (pass? : Option Nat) :
    Except ActionError Bool → List (Event H) → Prop where
  | unclear {error events}
      (clearance : Clearance interpreter action stack item? (.error error) events) :
      Pass item? overridden? pass? (.error error) events
  | held {events} (clearance : Clearance interpreter action stack item? (.ok false) events) :
      Pass item? overridden? pass? (.ok false) events
  | failed {error events events'}
      (clearance : Clearance interpreter action stack item? (.ok true) events)
      (execution : Execution (within interpreter action pass?) action stack overridden?
        (.error error) events') :
      Pass item? overridden? pass? (.error error) (events ++ events')
  | executed {events events'} (clearance : Clearance interpreter action stack item? (.ok true) events)
      (execution : Execution (within interpreter action pass?) action stack overridden?
        (.ok ()) events') :
      Pass item? overridden? pass? (.ok true) (events ++ events')

inductive Passes (item? overridden? : Option H.Item) :
    (pass : Nat) → Except Interpreter.PlacedError Unit → List (Event H) → Prop where
  | failed {pass error events}
      (last : Pass interpreter action stack item? overridden? (passOf? action pass)
        (.error error) events) :
      Passes item? overridden? pass (.error (Interpreter.inPass (passOf? action pass) error)) events
  | held {pass events}
      (last : Pass interpreter action stack item? overridden? (passOf? action pass)
        (.ok false) events) :
      Passes item? overridden? pass (.ok ()) events
  | once {pass events} (once : action.guard? .asLongAs = none)
      (last : Pass interpreter action stack item? overridden? (passOf? action pass)
        (.ok true) events) :
      Passes item? overridden? pass (.ok ()) events
  | again {pass result events events'} (repeats : (action.guard? .asLongAs).isSome)
      (first : Pass interpreter action stack item? overridden? (passOf? action pass)
        (.ok true) events)
      (rest : Passes item? overridden? (pass + 1) result events') :
      Passes item? overridden? pass result (events ++ events')

def framed (index : Nat) (frame : Frame H.Item) (events : List (Event H)) : List (Event H) :=
  .iterated .interpreter index (.ok frame) (stack.push frame).depth ::
    (events ++ [.popped .interpreter stack.depth])

inductive Elements : (elements : List H.Item) → (index : Nat) →
    Except Interpreter.PlacedError Unit → List (Event H) → Prop where
  | none {index} : Elements [] index (.ok ()) []
  | failed {element rest index frame error events} (derived : stack.elementFrame index = .ok frame)
      (passes : Passes interpreter action (stack.push frame) (some element) (some element) 1
        (.error error) events) :
      Elements (element :: rest) index (.error (Interpreter.inElement index error))
        (framed stack index frame events)
  | next {element rest index frame result events events'}
      (derived : stack.elementFrame index = .ok frame)
      (passes : Passes interpreter action (stack.push frame) (some element) (some element) 1
        (.ok ()) events)
      (more : Elements rest (index + 1) result events') :
      Elements (element :: rest) index result (framed stack index frame events ++ events')

inductive Content (frame : Frame H.Item) :
    Except Interpreter.PlacedError Unit → List (Event H) → Prop where
  | single {result events} (plain : action.iterate? = none)
      (passes : Passes interpreter action (stack.push frame) frame.contextItem?
        (if frame.overridden then frame.contextItem? else none) 1 result events) :
      Content frame result events
  | several {result events} (iterates : action.iterate?.isSome)
      (elements : Elements interpreter action (stack.push frame) frame.focus.items 1 result events) :
      Content frame result events

def Body : Except Interpreter.PlacedError Unit → List (Event H) → Prop :=
  Bound stack (interpreter.groundSpec action)
    (fun error => Interpreter.inPass none (.binding error)) (Content interpreter action stack)

end
end ActionTree.Level

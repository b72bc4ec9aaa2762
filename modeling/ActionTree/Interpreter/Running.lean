import ActionTree.Interpreter

/-! Running an action: bind its model, context and iteration, then execute its handler
once for each element and for each pass that its conditions allow. Frames are taken off
again on every way out. A failure carries the place its action's loops had reached.

Fuel bounds the depth of nested runs and the passes of each loop. -/
namespace ActionTree.Interpreter
variable {H : Host}

abbrev PlacedError := LoopPosition × ActionError

def inPass (pass? : Option Nat) (error : ActionError) : PlacedError := (⟨none, pass?⟩, error)

def inElement (element : Nat) (error : PlacedError) : PlacedError :=
  ({ error.1 with element? := some element }, error.2)

/-- Whether a condition of the action, if it has one, lets the action go on. -/
def admits (interpreter : Interpreter H) (action : Action) (item? : Option H.Item) (guard : Guard) :
    Act H ActionError Bool :=
  match action.guard? guard with
  | none => pure true
  | some expression => do
      let outcome ← interpreter.checkGuard action guard expression item?
      return outcome = .passed

/-- The request that binds `ref` or `bind` for the handler. -/
def targetSpec (interpreter : Interpreter H) (action : Action) : Binding.Spec :=
  { Binding.Spec.anchored action (interpreter.sourceId action) with
    select? := action.ref?, bind? := action.bind? }

/-- The request that binds the model, the context and the iteration of an action. -/
def groundSpec (interpreter : Interpreter H) (action : Action) : Binding.Spec :=
  { Binding.Spec.anchored action (interpreter.sourceId action) with
    select? := action.iterate?, context? := action.context?, model? := action.model? }

/-- What the interpreter derives a frame of its own from. -/
inductive Origin where
  | spec (spec : Binding.Spec)
  | element (index : Nat)

def enter (interpreter : Interpreter H) : Origin → Act H BindingError Unit
  | .spec spec => Binding.push interpreter.evaluator .interpreter spec
  | .element index => Binding.pushElement .interpreter index

def under {S : Type → Type → Type} [∀ ε, Monad (S ε)] [Steps H S] {ε α : Type}
    (interpreter : Interpreter H) (enter : Act H ε Unit) (body : S ε α) : S ε α := do
  Steps.ofAct enter
  Steps.ensuring body fun _ => Binding.pop .interpreter interpreter.spans

/-- Steps that can be done in a frame of their own: on a stack the frame is put on top, and taken
off on every way out. -/
class Framable (H : outParam Host) (S : Type → Type → Type) [∀ ε, Monad (S ε)] extends Steps H S where
  within {ε : Type} (interpreter : Interpreter H) (origin : Origin) (change : BindingError → ε)
      (body : S ε Unit) : S ε Unit :=
    interpreter.under ((interpreter.enter origin).mapError change) body

instance : Framable H (Run H) where

section
variable {S : Type → Type → Type} [∀ ε, Monad (S ε)] [Framable H S]

/-- Tells that the handler of an action is executed, and with what result. -/
def inExecution (action : Action) (overridden? : Option H.Item) (body : S ActionError Unit) :
    S ActionError Unit := do
  let frame ← Steps.frame
  Steps.record (.dispatched action overridden? frame)
  Steps.ensuring body fun result => Act.record (.returned action result)

/-- Adds the level of an action to errors, and tells that the action runs and with what result. -/
def inLevel (action : Action) (body : S PlacedError Unit) : S ActionError Unit := do
  Steps.record (.entered action)
  Steps.ensuring (Steps.mapError (fun error => error.2.within action error.1) body)
    fun result => Act.record (.left action result)

variable (run : Interpreter H → Action → S ActionError Unit)

def handle (interpreter : Interpreter H) (action : Action) (handler : Handler H)
    (overridden? : Option H.Item) : S ActionError Unit :=
  inExecution action overridden?
    (interpreter.perform (run interpreter) (handler (interpreter.dispatch action overridden?)))

def execute (interpreter : Interpreter H) (action : Action) (overridden? : Option H.Item) :
    S ActionError Unit := do
  Steps.record (interpreter.logged .executing)
  let handler? := interpreter.handlerFor action.name
  Steps.record (.lookedUp action.name handler?.isSome)
  match handler? with
  | none => Steps.fail (.unknownAction action.name)
  | some handler =>
      Framable.within interpreter (.spec (interpreter.targetSpec action)) .binding
        (handle run interpreter action handler overridden?)
      Steps.record (interpreter.logged .done)

/-- One pass: whether the conditions let the handler be executed. -/
def runPass (interpreter : Interpreter H) (action : Action) (item? overridden? : Option H.Item)
    (pass? : Option Nat) : S ActionError Bool := do
  if ← Steps.ofAct (interpreter.admits action item? .onlyIf) then
    if ← Steps.ofAct (interpreter.admits action item? .asLongAs) then
      let inside := { interpreter with spans := interpreter.spans ++ [⟨action.name, pass?⟩] }
      execute run inside action overridden?
      return true
    else return false
  else return false

/-- Repeats passes as long as `while` holds; without it there is one. -/
def runPasses (interpreter : Interpreter H) (action : Action) (item? overridden? : Option H.Item) :
    (fuel pass : Nat) → S PlacedError Unit
  | 0, _ => Steps.outOfFuel
  | fuel + 1, pass => do
      let repeats := (action.guard? .asLongAs).isSome
      let pass? := if repeats then some pass else none
      let executed ← Steps.mapError (inPass pass?)
        (runPass run interpreter action item? overridden? pass?)
      if executed && repeats then
        runPasses interpreter action item? overridden? fuel (pass + 1)
      else pure ()

/-- Runs the action for each of the elements, the first of which has the given index.
Every element is its own context item, and overrides the one in scope. -/
def runElements (interpreter : Interpreter H) (action : Action) (fuel : Nat) :
    (elements : List H.Item) → (index : Nat) → S PlacedError Unit
  | [], _ => pure ()
  | element :: rest, index => do
      Steps.mapError (inElement index)
        (Framable.within interpreter (.element index) (fun error => inPass none (.binding error))
          (runPasses run interpreter action (some element) (some element) fuel 1))
      runElements interpreter action fuel rest (index + 1)

/-- What an action does in the frame that its model, context and iteration give. -/
def runGrounded (interpreter : Interpreter H) (action : Action) (fuel : Nat) :
    S PlacedError Unit := do
  let frame ← Steps.frame
  if action.iterate?.isSome then
    runElements run interpreter action fuel frame.focus.items 1
  else
    let item? := frame.contextItem?
    runPasses run interpreter action item? (if frame.overridden then item? else none) fuel 1

/-- The whole of an action, without the level it adds to errors. -/
def runBody (interpreter : Interpreter H) (action : Action) (fuel : Nat) : S PlacedError Unit :=
  Framable.within interpreter (.spec (interpreter.groundSpec action))
    (fun error => inPass none (.binding error)) (runGrounded run interpreter action fuel)

end

def runIn {S : Type → Type → Type} [∀ ε, Monad (S ε)] [Framable H S] (fuel : Nat)
    (interpreter : Interpreter H) (action : Action) : S ActionError Unit :=
  match fuel with
  | 0 => Steps.outOfFuel
  | fuel + 1 => inLevel action (runBody (runIn fuel) interpreter action (fuel + 1))

def runAction (fuel : Nat) (interpreter : Interpreter H) (action : Action) :
    Run H ActionError Unit :=
  runIn fuel interpreter action

def runHandler (fuel : Nat) (interpreter : Interpreter H) : Run H ActionError Unit :=
  runAction fuel interpreter interpreter.invocation.action

end ActionTree.Interpreter

import ActionTree.Program
import ActionTree.Registry

/-! What the interpreter does for one action without running others: it evaluates with
the action's own names and position, checks conditions, fills templates and finds
objects. -/
namespace ActionTree

structure Interpreter (H : Host) where
  container : Container H
  evaluator : Evaluator H.State H.Item
  handlerFor : Name → Option (Handler H)
  settings : Settings
  invocation : Invocation H
  spans : List Span

namespace Interpreter
variable {H : Host} (interpreter : Interpreter H)

def dispatch (action : Action) (overridden? : Option H.Item) : Dispatch H :=
  { action, overridden?, invocation := interpreter.invocation, settings := interpreter.settings,
    component := interpreter.container.component }

def sourceId (action : Action) : String :=
  EffectiveId.related interpreter.invocation.handlerId action.staticId

/-- A request on behalf of an action, with the variables and the model of a frame. -/
def request (action : Action) (frame : Binding.Frame H.Item) (focus : Focus H.Item)
    (expression : String) : Request H.Item :=
  { focus, expression, namespaces := action.namespaces, «variables» := frame.variables,
    sourceId := interpreter.sourceId action, modelId? := frame.modelId?,
    location? := action.location? }

def evaluate (purpose : Purpose) (mode : Mode) (action : Action) (focus : Focus H.Item)
    (expression : String) : Act H ActionError (mode.Answer H.Item) := do
  let frame ← Act.frame
  (Act.evaluate interpreter.evaluator purpose mode
    (interpreter.request action frame focus expression)).mapError .evaluation

/-- The text of a result; nothing gives the empty text. -/
def evaluateText (action : Action) (focus : Focus H.Item) (expression : String) :
    Act H ActionError String := do
  let text? ← interpreter.evaluate .handler .text action focus expression
  return Option.getD text? ""

def logged (entry : LogEntry) : Event H := .logged entry interpreter.spans

/-- Checks a condition against one item alone. -/
def checkGuard (action : Action) (guard : Guard) (expression : String) (item? : Option H.Item) :
    Act H ActionError GuardOutcome :=
  match item? with
  | none => do
      Act.record <| interpreter.logged (.skipped action.name guard .missingContext)
      return .missingContext
  | some item => do
      let items ← interpreter.evaluate .guard .items action ⟨[item], 1⟩ s!"boolean({expression})"
      match (List.head? items).bind H.truth? with
      | none => Act.fail (.notBoolean guard expression)
      | some true => return .passed
      | some false =>
          Act.record <| interpreter.logged (.skipped action.name guard (.evaluatedFalse expression))
          return .evaluatedFalse

/-- Fills a template from the current frame. Without a single item a template has no
value, while any other text stands for itself. -/
def fillTemplate (action : Action) (raw? : Option String) : Act H ActionError (Option String) :=
  match raw? with
  | none => pure none
  | some raw =>
      if mayBeTemplate raw then do
        let frame ← Act.frame
        if frame.single?.isNone then return none
        let text ← interpreter.evaluate .template .template action frame.focus raw
        return some text
      else pure (some raw)

def indexedId (action : Action) (object : H.Object) (indexes : String) : Act H ActionError String :=
  if interpreter.container.relative then do
    let actionId := interpreter.container.component ++ action.staticId
    let result ← Act.ask interpreter.container (.relativeId object actionId indexes)
    Act.ofExcept result
  else do
    let indexes ← Act.ofExcept ((RepeatIndex.parse indexes).mapError .repeatIndex)
    let prefixedId ← Act.ask interpreter.container (.prefixedId object)
    return EffectiveId.withIndexes prefixedId indexes

/-- The live object that an id refers to from an action: at the repeat indexes that the
action gives, or else in the current iteration. -/
def findObject (action : Action) (targetId : String) : Act H ActionError (Option H.Object) := do
  let found ← Act.ask interpreter.container (.target (interpreter.sourceId action) targetId none)
  match (found : Option H.Object) with
  | none => return none
  | some object =>
      let written? ← interpreter.fillTemplate action
        (action.attribute? (.named interpreter.settings.repeatIndexes))
      match written?.map fun written => String.ofList (Text.trim written.toList) with
      | none | some "" => return some object
      | some indexes =>
          let effectiveId ← interpreter.indexedId action object indexes
          Act.ask interpreter.container (.object effectiveId)

/-- Updates are deferred unless there is an item and the action says `false`. -/
def deferredUpdates (action : Action) : Act H ActionError Bool := do
  let frame ← Act.frame
  if frame.single?.isNone then return true
  let value? ← interpreter.fillTemplate action
    (action.attribute? (.named interpreter.settings.deferredUpdates))
  return value? ≠ some "false"

def answer : (call : Call H) → Act H ActionError call.Answer
  | .state => Act.state (H := H)
  | .setState state => Act.setState (H := H) state
  | .items action focus expression => interpreter.evaluate .handler .items action focus expression
  | .text action focus expression => interpreter.evaluateText action focus expression
  | .evaluate mode request =>
      Act.mapError ActionError.evaluation (Act.evaluate interpreter.evaluator .handler mode request)
  | .template action raw? => interpreter.fillTemplate action raw?
  | .guard action guard expression item? => interpreter.checkGuard action guard expression item?
  | .find action targetId => interpreter.findObject action targetId
  | .deferredUpdates action => interpreter.deferredUpdates action
  | .ask question => Act.ask interpreter.container question
  | .frame => Act.frame (H := H)
  | .depth => fun machine => ⟨.ok machine.stack.depth, machine, []⟩
  | .push spec => Act.mapError ActionError.binding (Binding.push interpreter.evaluator .handler spec)
  | .pushElement index => Act.mapError ActionError.binding (Binding.pushElement .handler index)
  | .pop => Binding.pop .handler interpreter.spans
  | .note note => Act.record (.noted note)

section
variable {S : Type → Type → Type} [∀ ε, Monad (S ε)] [Steps H S]

/-- Runs a program, with `run` for the actions it re-enters. -/
def perform {α : Type} (run : Action → S ActionError Unit) : Program H α → S ActionError α
  | .done value => pure value
  | .fail error => Steps.fail error
  | .ask call next => do
      let answer ← Steps.attempt (Steps.ofAct (interpreter.answer call) : S ActionError _)
      perform run (next answer)
  | .run action next => do
      let result ← Steps.attempt (run action)
      perform run (next result)

end
end Interpreter
end ActionTree

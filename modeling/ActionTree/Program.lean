import ActionTree.Binding.Derivation
import ActionTree.Settings

/-! What handlers are made of. A program is a tree of calls to the interpreter whose
rest depends on the answers; a failed call is an answer too, and the program decides
whether it ends there. -/
namespace ActionTree

inductive GuardOutcome where
  | passed
  | evaluatedFalse
  /-- There was no context item, so nothing was evaluated. -/
  | missingContext
  deriving DecidableEq, Repr

/-- What a program can ask of the interpreter it runs in, short of running an action. -/
inductive Call (H : Host) where
  | state
  | setState (state : H.State)
  | items (action : Action) (focus : Focus H.Item) (expression : String)
  | text (action : Action) (focus : Focus H.Item) (expression : String)
  | evaluate (mode : Mode) (request : Request H.Item)
  | template (action : Action) (raw? : Option String)
  | guard (action : Action) (guard : Guard) (expression : String) (item? : Option H.Item)
  | find (action : Action) (targetId : String)
  | deferredUpdates (action : Action)
  | ask (question : Question H)
  | frame
  | depth
  | push (spec : Binding.Spec)
  | pushElement (index : Nat)
  | pop
  | note (note : H.Note)

def Call.Answer {H : Host} : Call H → Type
  | state => H.State
  | setState _ => Unit
  | items _ _ _ => List H.Item
  | text _ _ _ => String
  | evaluate mode _ => mode.Answer H.Item
  | template _ _ => Option String
  | guard _ _ _ _ => GuardOutcome
  | find _ _ => Option H.Object
  | deferredUpdates _ => Bool
  | ask question => question.Answer
  | frame => Binding.Frame H.Item
  | depth => Nat
  | push _ => Unit
  | pushElement _ => Unit
  | pop => Unit
  | note _ => Unit

inductive Program (H : Host) (α : Type) where
  | done (value : α)
  | fail (error : ActionError)
  | ask (call : Call H) (next : Except ActionError call.Answer → Program H α)
  | run (action : Action) (next : Except ActionError Unit → Program H α)

namespace Program
variable {H : Host} {α β : Type}

def bind (program : Program H α) (rest : α → Program H β) : Program H β :=
  match program with
  | done value => rest value
  | fail error => fail error
  | ask call next => ask call fun answer => (next answer).bind rest
  | run action next => run action fun result => (next result).bind rest

instance : Monad (Program H) where
  pure := done
  bind := bind

/-- Ends well in any case, with what happened as the value. -/
def attempt (program : Program H α) : Program H (Except ActionError α) :=
  match program with
  | done value => done (.ok value)
  | fail error => done (.error error)
  | ask call next => ask call fun answer => (next answer).attempt
  | run action next => run action fun result => (next result).attempt

def ofExcept : Except ActionError α → Program H α
  | .ok value => done value
  | .error error => fail error

def call (call : Call H) : Program H call.Answer := ask call ofExcept

def runAction (action : Action) : Program H Unit := run action ofExcept

/-- Runs actions one after the other, up to the first that fails. -/
def runAll : List Action → Program H Unit
  | [] => done ()
  | action :: rest => do
      runAction action
      runAll rest

end Program

structure Dispatch (H : Host) where
  action : Action
  overridden? : Option H.Item
  invocation : Invocation H
  settings : Settings
  component : String

abbrev Handler (H : Host) := Dispatch H → Program H Unit

namespace Dispatch
variable {H : Host}

/-- The effective id that the ids in an action are resolved from: the action's own, in
the component and the iteration of the handler. -/
def sourceIdOf (dispatch : Dispatch H) (action : Action) : String :=
  EffectiveId.related dispatch.invocation.handlerId action.staticId

def sourceId (dispatch : Dispatch H) : String := dispatch.sourceIdOf dispatch.action

def prefixedId (dispatch : Dispatch H) : String := dispatch.component ++ dispatch.action.staticId

def boundItem? : Program H (Option H.Item) := do
  let frame ← .call .frame
  return frame.single?

def template (dispatch : Dispatch H) (key : AttributeKey) : Program H (Option String) :=
  .call (.template dispatch.action (dispatch.action.attribute? key))

/-- Runs the children of the action in document order. -/
def runNested (dispatch : Dispatch H) : Program H Unit := .runAll dispatch.action.children

end Dispatch
end ActionTree

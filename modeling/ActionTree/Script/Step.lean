import ActionTree.Script.Host

/-! Handlers of a scripted host: lists of steps, each with a condition on when it is
taken and with a choice of whether its failure is the handler's. -/
namespace ActionTree.Script

/-- What a step asks for when it pushes a frame; the source is the action's static id
where none is given. -/
structure PushStep where
  sourceId? : Option String
  select? : Option String
  context? : Option String
  model? : Option String
  bind? : Option String
  inner : Bool

def PushStep.spec (step : PushStep) (action : Action) : Binding.Spec :=
  { Binding.Spec.anchored action (step.sourceId?.getD action.staticId) with
    select? := step.select?, context? := step.context?, model? := step.model?,
    bind? := step.bind?, inner := step.inner }

inductive Command where
  | nested
  | child (index : Nat)
  | fail (error : ActionError)
  | add (list : String) (added : List Item)
  | addBound (list : String)
  | removeFirst (list : String)
  | source
  | binding
  | template (key : AttributeKey)
  | templateValue (raw? : Option String)
  | object (targetId : String)
  | deferred
  | condition (guard : Guard) (expression : String) (item? : Option Item)
  | text (focus : Focus Item) (expression : String)
  | items (focus : Focus Item) (expression : String)
  | evaluate (focus : Focus Item) (expression : String)
  | ids
  | invocation
  | frame
  | push (step : PushStep)
  | element (index : Nat)
  | pop
  | run

def Command.name : Command → String
  | nested => "nested"
  | child _ => "child"
  | fail _ => "fail"
  | add _ _ => "doc_push"
  | addBound _ => "doc_push_bound"
  | removeFirst _ => "doc_shift"
  | source => "source"
  | binding => "binding"
  | template _ => "avt"
  | templateValue _ => "avt_value"
  | object _ => "object"
  | deferred => "deferred"
  | condition _ _ _ => "cond"
  | text _ _ => "string"
  | items _ _ => "items"
  | evaluate _ _ => "raw_eval"
  | ids => "ids"
  | invocation => "info"
  | frame => "frame"
  | push _ => "push"
  | element _ => "iteration"
  | pop => "pop"
  | run => "run"

/-- Conditions on a step; an absent one holds, and an absent item is one of the items
that can be asked for. -/
structure When where
  count? : Option Nat
  bound? : Option (Option Item)
  overridden? : Option (Option Item)

def When.always : When := ⟨none, none, none⟩

def When.Holds (step : When) (count : Nat) (bound? overridden? : Option Item) : Prop :=
  (∀ wanted ∈ step.count?, count = wanted) ∧ (∀ wanted ∈ step.bound?, bound? = wanted) ∧
    ∀ wanted ∈ step.overridden?, overridden? = wanted

instance (step : When) (count : Nat) (bound? overridden? : Option Item) :
    Decidable (step.Holds count bound? overridden?) :=
  inferInstanceAs (Decidable (_ ∧ _ ∧ _))

structure Step where
  command : Command
  when : When
  caught : Bool

def call (call : Call host) : Program host call.Answer := Program.call call

def note (note : Note) : Program host Unit := Program.call (.note note)

def changeList (name : String) (change : List Item → List Item) : Program host Value := do
  let state : State ← call .state
  call (.setState { state with
    document := state.document.insert name (change (state.document.list name)) })
  return .word "changed"

def Command.program (dispatch : Dispatch host) : Command → Program host Value
  | nested => do
      dispatch.runNested
      return .word "done"
  | child index => match dispatch.action.children[index]? with
      | none => return .word "no child"
      | some action => do
          Program.runAction action
          return .word "done"
  | fail error => Program.fail error
  | add list added => changeList list (· ++ added)
  | addBound list => do
      let bound? : Option Item ← Dispatch.boundItem?
      changeList list (· ++ bound?.toList)
  | removeFirst list => changeList list List.tail
  | source => return .text (some dispatch.sourceId)
  | binding => Value.frame <$> call .frame
  | template key => Value.text <$> dispatch.template key
  | templateValue raw? => Value.text <$> call (.template dispatch.action raw?)
  | object targetId => Value.text <$> call (.find dispatch.action targetId)
  | deferred => Value.truth <$> call (.deferredUpdates dispatch.action)
  | condition guard expression item? =>
      Value.guard <$> call (.guard dispatch.action guard expression item?)
  | text focus expression =>
      (fun text => Value.text (some text)) <$> call (.text dispatch.action focus expression)
  | items focus expression => Value.items <$> call (.items dispatch.action focus expression)
  | evaluate focus expression => Value.items <$> call (.evaluate .items
      { focus, expression, namespaces := dispatch.action.namespaces, «variables» := .empty,
        sourceId := "", modelId? := none, location? := none })
  | ids => do
      let scope? : Option Scope ← call (.ask (.scope dispatch.prefixedId))
      return .ids dispatch.sourceId dispatch.prefixedId scope? dispatch.action.namespaces
  | invocation =>
      let origin := dispatch.invocation
      return .invocation origin.trigger origin.observer origin.handlerId origin.action.staticId
        dispatch.component dispatch.settings.deferredUpdates
  | frame => Value.frame <$> call .frame
  | push step => do
      call (.push (step.spec dispatch.action))
      return .word "pushed"
  | element index => do
      call (.pushElement index)
      return .word "pushed"
  | pop => do
      call .pop
      return .word "popped"
  | run => do
      Program.runAction dispatch.action
      return .word "done"

def Step.program (dispatch : Dispatch host) (count : Nat) (step : Step) : Program host Unit := do
  let bound? ← Dispatch.boundItem?
  if step.when.Holds count bound? dispatch.overridden? then
    let result ← (step.command.program dispatch).attempt
    match result with
    | .ok value => note (.step step.command.name value)
    | .error error =>
        if step.caught then note (.caught step.command.name error) else Program.fail error

def takeAll (dispatch : Dispatch host) (count : Nat) : List Step → Program host Unit
  | [] => pure ()
  | step :: rest => do
      step.program dispatch count
      takeAll dispatch count rest

/-- A handler that counts and notes its dispatch before it takes its steps. -/
def handler (number : Nat) (steps : List Step) : Handler host := fun dispatch => do
  let state : State ← call .state
  let count := state.dispatches.count number + 1
  call (.setState { state with dispatches := number :: state.dispatches })
  let frame : Binding.Frame Item ← call .frame
  let depth : Nat ← call .depth
  note (.dispatched number count dispatch.action dispatch.overridden? frame.single? depth)
  takeAll dispatch count steps

end ActionTree.Script

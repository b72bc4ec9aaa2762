import ActionTree.Program
import ActionTree.Script.Rule
import ActionTree.Script.Template

/-! The scripted host: an evaluator that looks its answers up in rules, a container
whose objects are effective ids, and a state that counts and keeps lists. -/
namespace ActionTree.Script

inductive Value where
  | word (word : String)
  | text (text? : Option String)
  | truth (truth : Bool)
  | items (items : List Item)
  | frame (frame : Binding.Frame Item)
  | guard (outcome : GuardOutcome)
  | ids (sourceId prefixedId : String) (scope? : Option Scope) (namespaces : Namespaces)
  | invocation (trigger observer handlerId outerId component : String) (deferredUpdates : Name)

inductive Note where
  | dispatched (handler count : Nat) (action : Action) (overridden? bound? : Option Item)
      (depth : Nat)
  | step (name : String) (value : Value)
  | caught (name : String) (error : ActionError)

structure State where
  lookUps : StringMap Nat
  /-- Numbers of the handlers dispatched so far, the latest first. -/
  dispatches : List Nat
  document : Document

def State.start (document : Document) : State := ⟨.empty, [], document⟩

abbrev host : Host where
  State := State
  Item := Item
  Object := String
  Trigger := String
  Note := Note
  truth? := Item.truth?

/-- Looks an expression up and applies its rule. Expressions without a rule are counted
too. -/
def lookUp (rules : StringMap Rule) (request : Request Item) (expression : String) (state : State) :
    Except EvalError (List Item) × State :=
  let count := (state.lookUps.get? expression).getD 0 + 1
  let result := match rules.get? expression with
    | none => .error ⟨expression, "no rule for expression", none, none⟩
    | some rule => rule.apply state.document count request
  (result, { state with lookUps := state.lookUps.insert expression count })

def fill (rules : StringMap Rule) (request : Request Item) (filled : String) (state : State) :
    List Template.Piece → Except EvalError String × State
  | [] => (.ok filled, state)
  | .text text :: rest => fill rules request (filled ++ text) state rest
  | .unterminated :: _ => (.error (request.error "unterminated template"), state)
  | .expression expression :: rest =>
      match lookUp rules request expression state with
      | (.error error, state) => (.error error, state)
      | (.ok items, state) =>
          fill rules request (filled ++ String.join (items.map Item.shown)) state rest

/-- The texts of items with one space between them, or nothing. -/
def joined? (items : List Item) : Option String :=
  if items.isEmpty then none else some (" ".intercalate (items.map Item.shown))

def evaluator (rules : StringMap Rule) : Evaluator State Item
  | .items, request, state => lookUp rules request request.expression state
  | .text, request, state =>
      let (result, state) := lookUp rules request request.expression state
      (result.map joined?, state)
  | .template, request, state =>
      fill rules request "" state (Template.pieces request.expression)

structure Component where
  component : String
  objects : List String
  scopes : StringMap String
  /-- Whether targets are looked for in the iteration of their source. -/
  bySource : Bool
  relative : Bool

namespace Component

def refused : String := "fail"

def object? (component : Component) (effectiveId : String) : Option String :=
  if effectiveId ∈ component.objects then some effectiveId else none

def answer (component : Component) : (question : Question host) → question.Answer
  | .scope prefixedId => (component.scopes.get? prefixedId).map Scope.mk
  | .target sourceId targetId _ => component.object?
      (if component.bySource then EffectiveId.related sourceId targetId
        else component.component ++ targetId)
  | .prefixedId object => (EffectiveId.ofText object).prefixedId
  | .object effectiveId => component.object? effectiveId
  | .relativeId object actionId indexes =>
      if indexes = refused then .error (.failed "relative indexes failed" none)
      else .ok ("|".intercalate [object, actionId, indexes])

def container (component : Component) : Container host where
  component := component.component
  answer question state := (component.answer question, state)
  relative := component.relative

end Component
end ActionTree.Script

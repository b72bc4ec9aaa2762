import ActionTree.Action
import ActionTree.Error
import ActionTree.Focus

/-! What an expression evaluator is asked and what it answers. The language of the
expressions is open; a request carries everything an evaluation may depend on. -/
namespace ActionTree

abbrev Variables (Item : Type) := StringMap (List Item)

structure Request (Item : Type) where
  focus : Focus Item
  expression : String
  namespaces : Namespaces
  «variables» : Variables Item
  /-- Effective id of the element on whose behalf functions of the language act. -/
  sourceId : String
  modelId? : Option String
  location? : Option Location
  deriving DecidableEq

namespace Request

def contextItem? {Item : Type} (request : Request Item) : Option Item := request.focus.item?

def error {Item : Type} (request : Request Item) (message : String) : EvalError :=
  ⟨request.expression, message, request.location?, none⟩

end Request

/-- How a result is wanted: as items, as one text, or with the expression read as a
template that holds expressions. -/
inductive Mode where
  | items
  | text
  | template
  deriving DecidableEq, Repr

def Mode.Answer (Item : Type) : Mode → Type
  | items => List Item
  | text => Option String
  | template => String

/-- An evaluator may keep and change a state of its own. -/
abbrev Evaluator (State Item : Type) :=
  (mode : Mode) → Request Item → State → Except EvalError (mode.Answer Item) × State

def mayBeTemplate (text : String) : Bool := text.toList.contains '{'

end ActionTree

import ActionTree.Location
import ActionTree.Name
import ActionTree.Scope
import ActionTree.StringMap

/-! Static descriptions of action elements. An attribute is looked up by its
expanded name, and the first attribute of that name counts. -/
namespace ActionTree

abbrev Namespaces := StringMap String

structure Attribute where
  name : Name
  value : String
  deriving DecidableEq, Repr

/-- How an attribute is asked for: by its local part in no namespace, or by a name. -/
inductive AttributeKey where
  | plain (localPart : String)
  | named (name : Name)
  deriving DecidableEq, Repr

def AttributeKey.Matches (held : Name) : AttributeKey → Prop
  | plain localPart => held.uri? = none ∧ held.localPart = localPart
  | named name => held.Same name

instance (held : Name) : (key : AttributeKey) → Decidable (key.Matches held)
  | .plain localPart => inferInstanceAs (Decidable (held.uri? = none ∧ held.localPart = localPart))
  | .named name => inferInstanceAs (Decidable (held.Same name))

inductive Guard where
  | onlyIf
  | asLongAs
  deriving DecidableEq, Repr

/-- The attribute that holds a condition, and its name in messages. -/
def Guard.text : Guard → String
  | onlyIf => "if"
  | asLongAs => "while"

structure Action where
  name : Name
  staticId : String
  attributes : List Attribute
  namespaces : Namespaces
  scope : Scope
  location? : Option Location
  children : List Action

namespace Action

def attribute? (action : Action) (key : AttributeKey) : Option String :=
  (action.attributes.find? fun held => key.Matches held.name).map Attribute.value

def guard? (action : Action) (guard : Guard) : Option String := action.attribute? (.plain guard.text)

def iterate? (action : Action) : Option String := action.attribute? (.plain "iterate")

def context? (action : Action) : Option String := action.attribute? (.plain "context")

def model? (action : Action) : Option String := action.attribute? (.plain "model")

def bind? (action : Action) : Option String := action.attribute? (.plain "bind")

def ref? (action : Action) : Option String := action.attribute? (.plain "ref")

def descendant? (action : Action) : List Nat → Option Action
  | [] => some action
  | index :: path => match action.children[index]? with
    | none => none
    | some child => child.descendant? path

end Action
end ActionTree

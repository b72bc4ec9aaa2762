import ActionTree.Action

/-! Actions put together step by step. Setting an attribute again replaces its
value and keeps both its place and the name it was first set under. -/
namespace ActionTree.Action

/-- An action without attributes, at the top level, at no known position. -/
def bare (name : Name) (staticId : String) : Action :=
  { name, staticId, attributes := [], namespaces := .empty, scope := .topLevel,
    location? := none, children := [] }

def assign (name : Name) (value : String) : List Attribute → List Attribute
  | [] => [⟨name, value⟩]
  | held :: rest =>
      if held.name.Same name then { held with value } :: rest
      else held :: assign name value rest

inductive Step where
  | assign (name : Name) (value : String)
  | declare (qualifier uri : String)
  | enterScope (scope : Scope)
  | locate (location : Location)
  | append (child : Action)

def Step.apply (action : Action) : Step → Action
  | assign name value => { action with attributes := Action.assign name value action.attributes }
  | declare qualifier uri => { action with namespaces := action.namespaces.insert qualifier uri }
  | enterScope scope => { action with scope }
  | locate location => { action with location? := some location }
  | append child => { action with children := action.children ++ [child] }

def Step.plain (localPart value : String) : Step := .assign (.unqualified localPart) value

def build (name : Name) (staticId : String) (steps : List Step) : Action :=
  steps.foldl Step.apply (bare name staticId)

end ActionTree.Action

import ActionTree.Action

/-! Requests for a new binding frame, made on behalf of an action. -/
namespace ActionTree.Binding

structure Spec where
  select? : Option String
  context? : Option String
  model? : Option String
  /-- Id of a declared bind, which goes before `select?`. -/
  bind? : Option String
  namespaces : Namespaces
  sourceId : String
  scope : Scope
  location? : Option Location
  inner : Bool
  deriving DecidableEq

def Spec.anchored (action : Action) (sourceId : String) : Spec :=
  { select? := none, context? := none, model? := none, bind? := none,
    namespaces := action.namespaces, sourceId, scope := action.scope,
    location? := action.location?, inner := false }

end ActionTree.Binding

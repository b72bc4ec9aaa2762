import ActionTree.EffectiveId

/-! Lexical scopes, in which the ids of elements are resolved. -/
namespace ActionTree

/-- The empty id is the scope of the whole document. -/
structure Scope where
  id : String
  deriving DecidableEq, Repr

namespace Scope

def topLevel : Scope := ⟨""⟩

def isTopLevel (scope : Scope) : Bool := scope.id = ""

def component (scope : Scope) : String :=
  if scope.isTopLevel then "" else scope.id ++ String.singleton EffectiveId.componentSeparator

end Scope
end ActionTree

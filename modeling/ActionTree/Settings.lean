import ActionTree.Name

/-! Settings that all actions of one run share: which attributes carry explicit
repeat indexes and the switch for deferred updates. -/
namespace ActionTree

structure Settings where
  repeatIndexes : Name
  deferredUpdates : Name
  deriving DecidableEq, Repr

namespace Settings

def extensionUri : String := "http://orbeon.org/oxf/xml/xforms"

def extensionQualifier : String := "xxf"

def standard : Settings where
  repeatIndexes := .inNamespace extensionUri extensionQualifier "repeat-indexes"
  deferredUpdates := .inNamespace extensionUri extensionQualifier "deferred-updates"

def Same (a b : Settings) : Prop :=
  a.repeatIndexes.Same b.repeatIndexes ∧ a.deferredUpdates.Same b.deferredUpdates

instance (a b : Settings) : Decidable (Same a b) :=
  inferInstanceAs (Decidable (a.repeatIndexes.Same b.repeatIndexes ∧ _))

end Settings
end ActionTree

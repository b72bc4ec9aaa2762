/-! Qualified names. A name's identity is its namespace and its local part; the
qualifier is kept for messages only. -/
namespace ActionTree

structure Name where
  qualifier? : Option String
  localPart : String
  uri? : Option String
  deriving DecidableEq, Repr

namespace Name

/-- What decides whether two names mean the same. -/
def expanded (name : Name) : Option String × String := (name.uri?, name.localPart)

def Same (a b : Name) : Prop := a.expanded = b.expanded

instance (a b : Name) : Decidable (Same a b) := inferInstanceAs (Decidable (a.expanded = b.expanded))

def unqualified (localPart : String) : Name := ⟨none, localPart, none⟩

/-- A name in a namespace; an empty qualifier is none. -/
def inNamespace (uri qualifier localPart : String) : Name :=
  ⟨if qualifier = "" then none else some qualifier, localPart, some uri⟩

def text (name : Name) : String :=
  match name.qualifier? with
  | none => name.localPart
  | some qualifier => qualifier ++ ":" ++ name.localPart

end Name
end ActionTree

/-! Positions of elements in their source documents. -/
namespace ActionTree

structure Location where
  systemId? : Option String
  line : UInt32
  column : UInt32
  deriving DecidableEq, Repr

/-- How messages show a position: compact with a document, spelled out without one. -/
def Location.text (location : Location) : String :=
  match location.systemId? with
  | none => s!"line {location.line}, column {location.column}"
  | some systemId => s!"{systemId}:{location.line}:{location.column}"

end ActionTree

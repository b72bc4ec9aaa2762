import ActionTree.BinaryFraction
import ActionTree.StringMap

/-! JSON values. Numbers are split the way readers see them: integers of 64 bits,
signed or not, and all others, which are read as binary fractions. -/
namespace ActionTree

inductive Json where
  | null
  | bool (value : Bool)
  | integer (value : Int)
  | fraction (negative : Bool) (size : BinaryFraction)
  | string (value : String)
  | array (items : List Json)
  /-- Keys ascend, and each occurs once. -/
  | object (entries : List (String × Json))
  deriving Repr, Inhabited

namespace Json

def ofOption {α : Type} (write : α → Json) : Option α → Json
  | none => .null
  | some value => write value

def ofMap {α : Type} (write : α → Json) (map : StringMap α) : Json :=
  .object (map.entries.map fun entry => (entry.1, write entry.2))

end Json
end ActionTree

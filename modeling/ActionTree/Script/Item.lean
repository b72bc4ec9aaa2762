import ActionTree.Evaluation

/-! Items of a scripted host, and the rules that stand in for an expression language:
the result of an expression is looked up, not computed. -/
namespace ActionTree.Script

inductive Item where
  | integer (value : Int)
  | truth (value : Bool)
  | text (value : String)
  deriving DecidableEq, Repr

namespace Item

def shown : Item → String
  | integer value => toString value
  | truth value => if value then "true" else "false"
  | text value => value

def truth? : Item → Option Bool
  | truth value => some value
  | _ => none

end Item
end ActionTree.Script

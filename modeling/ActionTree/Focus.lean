/-! A sequence of items with a position in it, counted from one. Position zero is no
position; a position may also lie beyond the end, and then there is no item either. -/
namespace ActionTree

structure Focus (Item : Type) where
  items : List Item
  position : Nat
  deriving DecidableEq, Repr

namespace Focus

def itemAt? {Item : Type} (items : List Item) : Nat → Option Item
  | 0 => none
  | index + 1 => items[index]?

def item? {Item : Type} (focus : Focus Item) : Option Item := itemAt? focus.items focus.position

/-- The first item in focus, and no position in an empty sequence. -/
def start {Item : Type} (items : List Item) : Focus Item := ⟨items, if items.isEmpty then 0 else 1⟩

def none {Item : Type} : Focus Item := ⟨[], 0⟩

def InRange {Item : Type} (focus : Focus Item) : Prop :=
  1 ≤ focus.position ∧ focus.position ≤ focus.items.length

instance {Item : Type} (focus : Focus Item) : Decidable focus.InRange :=
  inferInstanceAs (Decidable (1 ≤ focus.position ∧ focus.position ≤ focus.items.length))

theorem isSomeItemIff {Item : Type} (focus : Focus Item) : focus.item?.isSome ↔ focus.InRange := by
  cases focus with
  | mk items position =>
    cases position with
    | zero => simp [item?, itemAt?, InRange]
    | succ index =>
      simp only [item?, itemAt?, InRange, isSome_getElem?]
      omega

theorem itemStart {Item : Type} (items : List Item) : (start items).item? = items.head? := by
  cases items <;> rfl

theorem inRangeStart {Item : Type} (items : List Item) : (start items).InRange ↔ items ≠ [] := by
  cases items <;> simp [start, InRange]

end Focus
end ActionTree

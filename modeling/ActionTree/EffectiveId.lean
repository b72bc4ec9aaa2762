import ActionTree.Text.Cut

/-! Effective ids name one live instance of a statically declared element:
`outer≡inner≡id⊙1-3` is the element `id` inside two nested components, in the
iteration 1-3 of its enclosing repeats. Every text is such an id in exactly one way. -/
namespace ActionTree
open Text (beforeFirst fromFirst throughLast afterLast)

structure EffectiveId where
  /-- Names of the enclosing components, each followed by the component separator. -/
  component : String
  staticId : String
  /-- Text after the first repeat separator, which may be empty; absent without a separator. -/
  iteration? : Option String
  deriving DecidableEq, Repr

namespace EffectiveId

def componentSeparator : Char := '≡'

def repeatSeparator : Char := '⊙'

def indexSeparator : String := "-"

def ofText (text : String) : EffectiveId :=
  let prefixed := beforeFirst repeatSeparator text.toList
  { component := String.ofList (throughLast componentSeparator prefixed)
    staticId := String.ofList (afterLast componentSeparator prefixed)
    iteration? := match fromFirst repeatSeparator text.toList with
      | [] => none
      | _ :: iteration => some (String.ofList iteration) }

def prefixedId (id : EffectiveId) : String := id.component ++ id.staticId

def text (id : EffectiveId) : String :=
  match id.iteration? with
  | none => id.prefixedId
  | some iteration => id.prefixedId ++ String.singleton repeatSeparator ++ iteration

def suffix (id : EffectiveId) : String := id.iteration?.getD ""

theorem textOfText (e : String) : (ofText e).text = e := by
  have parts := Text.throughLastAfterLast componentSeparator (beforeFirst repeatSeparator e.toList)
  have whole := Text.beforeFirstFromFirst repeatSeparator e.toList
  apply String.toList_injective
  rcases Text.fromFirstShape repeatSeparator e.toList with nothing | ⟨iteration, found⟩
  · rw [nothing, List.append_nil] at whole
    simp only [text, ofText, prefixedId, nothing, String.toList_append, String.toList_ofList]
    exact parts.trans whole
  · rw [found] at whole
    simp only [text, ofText, prefixedId, found, String.toList_append, String.toList_ofList, parts,
      String.toList_singleton, List.append_assoc, List.singleton_append]
    exact whole

/-- The element `staticId` in the component and the iteration of `base`. An empty
iteration is none. -/
def related (base staticId : String) : String :=
  let id := ofText base
  { id with staticId, iteration? := if id.suffix = "" then none else some id.suffix }.text

/-- The instance of a repeated element at absolute indexes, outermost first. -/
def withIndexes (prefixedId : String) (indexes : List Nat) : String :=
  if indexes = [] then prefixedId
  else prefixedId ++ String.singleton repeatSeparator ++
    indexSeparator.intercalate (indexes.map Nat.repr)

theorem withIndexesSome (prefixedId : String) {indexes : List Nat} (some : indexes ≠ []) :
    withIndexes prefixedId indexes = prefixedId ++ "⊙" ++ "-".intercalate (indexes.map Nat.repr) :=
  if_neg some

end EffectiveId
end ActionTree

import ActionTree.Proofs.Decomposition
import ActionTree.Proofs.Grammar
import Mathlib.Data.List.Basic

/-! Instances of repeated elements. The id of an instance has the prefixed id of its element and,
if it is in a repeat, the indexes of all its iterations, which can be read off again. Two instances
have one id only if they are the same. -/
namespace ActionTree
namespace RepeatIndex

def Form.first : Form := ⟨[], nofun, false, 0⟩

def Form.later : Form := ⟨[' '], List.forall_mem_singleton.mpr rfl, false, 0⟩

/-- Indexes in their shortest forms, one space apart. -/
def spaced : List Nat → List (Form × Nat)
  | [] => []
  | index :: rest => (.first, index) :: rest.map fun next => (.later, next)

theorem spacedIndexes (indexes : List Nat) : (spaced indexes).map Prod.snd = indexes := by
  cases indexes <;> simp [spaced, Function.comp_def]

theorem layOutSpaced (indexes : List Nat) :
    layOut [] (spaced indexes) = (" ".intercalate (indexes.map Nat.repr)).toList := by
  induction indexes with
  | nil => rfl
  | cons index rest ih =>
    cases rest with
    | nil => simp [spaced, layOut, Form.first, Form.word]
    | cons next rest =>
      calc layOut [] (spaced (index :: next :: rest))
        _ = Nat.toDigits 10 index ++ ' ' :: layOut [] (spaced (next :: rest)) := rfl
        _ = (Nat.repr index).toList ++ " ".toList ++
            (" ".intercalate ((next :: rest).map Nat.repr)).toList := by simp [ih]
        _ = (" ".intercalate ((index :: next :: rest).map Nat.repr)).toList := by
          simp [String.intercalate_cons_cons]

theorem spacedParsed {indexes : List Nat} (sound : ∀ index ∈ indexes, 0 < index ∧ index < Nat.pow 2 32) :
    parse (" ".intercalate (indexes.map Nat.repr)) = .ok indexes := by
  have apart : ∀ entry ∈ (spaced indexes).tail, entry.1.blanks ≠ [] := by
    cases indexes <;> simp [spaced, Form.later]
  have known : ∀ entry ∈ spaced indexes, 0 < entry.2 ∧ entry.2 < Nat.pow 2 32 := fun entry member =>
    sound entry.2 (spacedIndexes indexes ▸ List.mem_map_of_mem member)
  have parsed := layOutParsed (List.forall_mem_nil _) apart known
  rwa [layOutSpaced, String.ofList_toList, spacedIndexes] at parsed

end RepeatIndex

namespace EffectiveId

/-- The indexes of an instance, as they are written into its id. -/
def iterations (indexes : List Nat) : String := "-".intercalate (indexes.map Nat.repr)

theorem iterationsEmpty {indexes : List Nat} : iterations indexes = "" ↔ indexes = [] := by
  cases indexes with
  | nil => simp [iterations]
  | cons index rest => cases rest <;> simp [iterations, String.intercalate_cons_cons]

theorem splitIterations {indexes : List Nat} (some : indexes ≠ []) :
    ((iterations indexes).split '-').toList.map String.Slice.copy = indexes.map Nat.repr := by
  have free : ∀ word ∈ indexes.map Nat.repr, '-' ∉ word.toList := by
    intro word member dash
    obtain ⟨index, _, rfl⟩ := List.mem_map.mp member
    rw [Nat.toList_repr] at dash
    exact absurd (Nat.isDigit_of_mem_toDigits (by decide) (by decide) dash) (by decide)
  have split := String.toList_split_intercalate free
  rwa [if_neg (by simpa using some)] at split

theorem readRepr :
    Function.LeftInverse (fun word : String => Nat.ofDigitChars 10 word.toList 0) Nat.repr := by
  intro index
  simp only [Nat.toList_repr, Nat.ofDigitChars_ten_toDigits]

theorem iterationsInjective {first second : List Nat} (same : iterations first = iterations second) :
    first = second := by
  by_cases empty : first = []
  · rw [iterationsEmpty.mpr empty, eq_comm, iterationsEmpty] at same
    rw [empty, same]
  · have some : second ≠ [] := fun none => empty (iterationsEmpty.mp (same ▸ iterationsEmpty.mpr none))
    have words : first.map Nat.repr = second.map Nat.repr := by
      rw [← splitIterations empty, same, splitIterations some]
    exact List.map_injective_iff.mpr readRepr.injective words

section
variable {prefixedId : String} (unrepeated : '⊙' ∉ prefixedId.toList)
include unrepeated

theorem splitsIndexed (indexes : List Nat) : Splits (withIndexes prefixedId indexes)
    (ofText prefixedId).component (ofText prefixedId).staticId (iterations indexes) := by
  have proper := properOfText prefixedId
  have whole : (ofText prefixedId).component ++ (ofText prefixedId).staticId = prefixedId :=
    prefixedPlain unrepeated
  by_cases none : indexes = []
  · have written : withIndexes prefixedId indexes = prefixedId := if_pos none
    have parts := splitsPlain proper.component proper.staticId
    rw [whole] at parts
    rwa [written, iterationsEmpty.mpr none]
  · have written : withIndexes prefixedId indexes = prefixedId ++ "⊙" ++ iterations indexes :=
      withIndexesSome prefixedId none
    have parts := splitsRepeated proper.component proper.staticId (iterations indexes)
    rwa [whole, ← written] at parts

theorem prefixedIndexed (indexes : List Nat) :
    (ofText (withIndexes prefixedId indexes)).prefixedId = prefixedId :=
  (splitsIndexed unrepeated indexes).prefixedId.trans (prefixedPlain unrepeated)

theorem indexedParsed {indexes : List Nat} (sound : ∀ index ∈ indexes, 0 < index ∧ index < Nat.pow 2 32) :
    RepeatIndex.parse (" ".intercalate
      (((ofText (withIndexes prefixedId indexes)).suffix.split '-').toList.map String.Slice.copy)) =
        .ok indexes := by
  rw [(splitsIndexed unrepeated indexes).suffix]
  by_cases none : indexes = []
  · subst none
    have alone : ((iterations []).split '-').toList.map String.Slice.copy = [""] :=
      String.toList_split_char
    rw [alone]
    rfl
  · rw [splitIterations none]
    exact RepeatIndex.spacedParsed sound

end

theorem indexedInjective {first second : String} {firstIndexes secondIndexes : List Nat}
    (firstPlain : '⊙' ∉ first.toList) (secondPlain : '⊙' ∉ second.toList)
    (same : withIndexes first firstIndexes = withIndexes second secondIndexes) :
    first = second ∧ firstIndexes = secondIndexes := by
  have firstSplits := splitsIndexed firstPlain firstIndexes
  have secondSplits := splitsIndexed secondPlain secondIndexes
  constructor
  · calc first
      _ = (ofText (withIndexes first firstIndexes)).prefixedId :=
        (prefixedIndexed firstPlain firstIndexes).symm
      _ = (ofText (withIndexes second secondIndexes)).prefixedId := by rw [same]
      _ = second := prefixedIndexed secondPlain secondIndexes
  · rw [same] at firstSplits
    exact iterationsInjective (firstSplits.suffix.symm.trans secondSplits.suffix)

/-- Instances are as different as their prefixed ids and indexes, all of which are read off their
ids again. -/
theorem indexedApart :
    (∀ (first second : String) (firstIndexes secondIndexes : List Nat),
      '⊙' ∉ first.toList → '⊙' ∉ second.toList →
      (withIndexes first firstIndexes = withIndexes second secondIndexes ↔
        first = second ∧ firstIndexes = secondIndexes)) ∧
    ∀ (prefixedId : String) (indexes : List Nat), '⊙' ∉ prefixedId.toList →
      (ofText (withIndexes prefixedId indexes)).prefixedId = prefixedId ∧
      (ofText (withIndexes prefixedId indexes)).component = (ofText prefixedId).component ∧
      (ofText (withIndexes prefixedId indexes)).staticId = (ofText prefixedId).staticId ∧
      ((ofText (withIndexes prefixedId indexes)).suffix = "" ↔ indexes = []) ∧
      ((∀ index ∈ indexes, 0 < index ∧ index < Nat.pow 2 32) →
        RepeatIndex.parse (" ".intercalate
          (((ofText (withIndexes prefixedId indexes)).suffix.split '-').toList.map
            String.Slice.copy)) = .ok indexes) := by
  constructor
  · intro first second firstIndexes secondIndexes firstPlain secondPlain
    refine ⟨indexedInjective firstPlain secondPlain, ?_⟩
    rintro ⟨rfl, rfl⟩
    rfl
  · intro prefixedId indexes plain
    have splits := splitsIndexed plain indexes
    refine ⟨prefixedIndexed plain indexes, splits.component, splits.staticId, ?_, indexedParsed plain⟩
    rw [splits.suffix]
    exact iterationsEmpty

theorem indexedApartAcrossDigits : withIndexes "a≡row" [1, 12] ≠ withIndexes "a≡row" [11, 2] ∧
    (ofText (withIndexes "a≡row" [1, 12])).prefixedId = "a≡row" ∧
    RepeatIndex.parse (" ".intercalate
      (((ofText (withIndexes "a≡row" [1, 12])).suffix.split '-').toList.map String.Slice.copy)) =
        .ok [1, 12] := by
  have plain : '⊙' ∉ "a≡row".toList := by decide
  have apart := (indexedApart.1 "a≡row" "a≡row" [1, 12] [11, 2] plain plain).mp
  obtain ⟨prefixed, _, _, _, parsed⟩ := indexedApart.2 "a≡row" [1, 12] plain
  exact ⟨fun same => absurd (apart same).2 (by decide), prefixed, parsed (by decide)⟩

end EffectiveId
end ActionTree

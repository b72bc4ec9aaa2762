import ActionTree.RepeatIndex
import Mathlib.Data.List.Forall2
import Mathlib.Data.List.TakeWhile

/-! Repeat indexes in a text. Trimming and splitting take the same characters for blanks: a text
has words in it unless trimming leaves nothing. They are read in their order, up to the first bad
one. -/
namespace ActionTree
namespace Text

theorem trimStartShows {text : List Char} (left : trimStart text ≠ []) :
    ∃ c ∈ trimStart text, isBlank c = false :=
  ⟨_, List.head_mem left, List.head_dropWhile_not isBlank left⟩

theorem trimShows {text : List Char} (left : trim text ≠ []) : ∃ c ∈ trim text, isBlank c = false := by
  have reversed : trimStart (trimStart text).reverse ≠ [] := fun none => left (by simp [trim, none])
  obtain ⟨c, member, visible⟩ := trimStartShows reversed
  exact ⟨c, List.mem_reverse.mpr member, visible⟩

theorem trimEmpty {text : List Char} : trim text = [] ↔ ∀ c ∈ text, isBlank c := by
  have start (text : List Char) : trimStart text = [] ↔ ∀ c ∈ text, isBlank c :=
    List.dropWhile_eq_nil_iff
  constructor
  · intro none
    have blank := (start _).mp (List.reverse_eq_nil_iff.mp none)
    refine (start text).mp (Classical.by_contradiction fun left => ?_)
    obtain ⟨c, member, visible⟩ := trimStartShows left
    exact absurd (blank c (List.mem_reverse.mpr member)) (by simp [visible])
  · intro blank
    rw [trim, (start text).mpr blank]
    rfl

theorem wordsEmpty {text : List Char} : words text = [] ↔ ∀ c ∈ text, isBlank c := by
  induction text with
  | nil => simp [words]
  | cons c rest ih =>
    by_cases blank : isBlank c
    · simp [words, blank, ih]
    · have some : words (c :: rest) ≠ [] := by
        simp only [words, blank, Bool.false_eq_true, if_false]
        split
        · exact nofun
        · split
          · exact nofun
          · split <;> exact nofun
      simp [some, blank]

theorem wordsOfTrim {text : List Char} : words (trim text) = [] ↔ ∀ c ∈ text, isBlank c := by
  refine Iff.trans ?_ trimEmpty
  constructor
  · intro none
    refine Classical.by_contradiction fun left => ?_
    obtain ⟨c, member, visible⟩ := trimShows left
    exact absurd (wordsEmpty.mp none c member) (by simp [visible])
  · intro none
    rw [none]
    rfl

end Text

namespace RepeatIndex
variable {text : String} {indexes : List Nat}

theorem ofWordBounds {word : List Char} {index : Nat} (read : ofWord? word = some index) :
    0 < index ∧ index < limit := by
  simp only [ofWord?, Option.ite_none_right_eq_some, Option.some.injEq] at read
  obtain ⟨⟨_, _, positive, small⟩, rfl⟩ := read
  exact ⟨positive, small⟩

theorem ofWordsOk {words : List (List Char)} :
    ofWords text words = .ok indexes ↔
      List.Forall₂ (fun word index => ofWord? word = some index) words indexes := by
  induction words generalizing indexes with
  | nil => simp [ofWords, eq_comm]
  | cons word rest ih =>
    rw [List.forall₂_cons_left_iff]
    simp only [← ih, ofWords]
    cases ofWord? word with
    | none => simp
    | some index =>
      cases ofWords text rest with
      | error error => simp [Except.map]
      | ok more => simp [Except.map, eq_comm]

theorem ofWordsError {words : List (List Char)} {invalid : Invalid} :
    ofWords text words = .error invalid ↔ ∃ before word after, words = before ++ word :: after ∧
      (∀ earlier ∈ before, (ofWord? earlier).isSome) ∧ ofWord? word = none ∧
        invalid = ⟨text, String.ofList word⟩ := by
  induction words with
  | nil => simp [ofWords]
  | cons first rest ih =>
    rw [ofWords]
    cases read : ofWord? first with
    | none =>
      constructor
      · intro same
        cases same
        exact ⟨[], first, rest, rfl, List.forall_mem_nil _, read, rfl⟩
      · rintro ⟨before, word, after, split, sound, bad, rfl⟩
        cases before with
        | nil =>
          cases split
          rfl
        | cons earlier before =>
          cases split
          simp [read] at sound
    | some index =>
      have later : (ofWords text rest).map (index :: ·) = .error invalid ↔
          ofWords text rest = .error invalid := by
        cases ofWords text rest <;> simp [Except.map]
      refine (later.trans ih).trans ⟨?_, ?_⟩
      · rintro ⟨before, word, after, rfl, sound, bad, same⟩
        exact ⟨first :: before, word, after, rfl,
          List.forall_mem_cons.mpr ⟨by simp [read], sound⟩, bad, same⟩
      · rintro ⟨before, word, after, split, sound, bad, same⟩
        cases before with
        | nil =>
          cases split
          simp [read] at bad
        | cons earlier before =>
          cases split
          exact ⟨before, word, after, rfl, (List.forall_mem_cons.mp sound).2, bad, same⟩

theorem parseOk : parse text = .ok indexes ↔
    List.Forall₂ (fun word index => ofWord? word = some index) (Text.words text.toList) indexes :=
  ofWordsOk

theorem parseError {invalid : Invalid} :
    parse text = .error invalid ↔ ∃ before word after,
      Text.words text.toList = before ++ word :: after ∧
        (∀ earlier ∈ before, (ofWord? earlier).isSome) ∧ ofWord? word = none ∧
          invalid = ⟨text, String.ofList word⟩ :=
  ofWordsError

theorem readPositive {words : List (List Char)}
    (each : List.Forall₂ (fun word index => ofWord? word = some index) words indexes) :
    ∀ index ∈ indexes, 0 < index := by
  induction each with
  | nil => exact List.forall_mem_nil _
  | cons read _ ih => exact List.forall_mem_cons.mpr ⟨(ofWordBounds read).1, ih⟩

end RepeatIndex
end ActionTree

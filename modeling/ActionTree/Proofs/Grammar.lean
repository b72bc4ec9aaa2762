import ActionTree.Proofs.Indexes
import Mathlib.Data.List.Induction

/-! The grammar of repeat indexes. A text is cut at its blanks into runs, each run writes one
index, and what a text is read as is what its runs write. However a list is laid out, with signs,
zeros and blanks of any kind, it is read back. -/
namespace ActionTree
namespace Text

/-- A text by its maximal runs of characters that are not blank. -/
inductive Runs : List Char → List (List Char) → Prop where
  | none {blanks} (blank : ∀ c ∈ blanks, isBlank c) : Runs blanks []
  | cons {blanks run rest runs} (blank : ∀ c ∈ blanks, isBlank c) (some : run ≠ [])
      (visible : ∀ c ∈ run, isBlank c = false) (ends : ∀ c ∈ rest.head?, isBlank c)
      (tail : Runs rest runs) : Runs (blanks ++ run ++ rest) (run :: runs)

variable {text run : List Char} {runs : List (List Char)}

theorem Runs.blank {c : Char} (blank : isBlank c) (known : Runs text runs) :
    Runs (c :: text) runs := by
  cases known with
  | none blanks => exact .none (List.forall_mem_cons.mpr ⟨blank, blanks⟩)
  | cons blanks some visible ends tail =>
    exact .cons (List.forall_mem_cons.mpr ⟨blank, blanks⟩) some visible ends tail

theorem Runs.start {c : Char} (visible : isBlank c = false) (ends : ∀ next ∈ text.head?, isBlank next)
    (known : Runs text runs) : Runs (c :: text) ([c] :: runs) :=
  .cons (List.forall_mem_nil _) (List.cons_ne_nil c []) (by simpa using visible) ends known

theorem Runs.extend {c : Char} (visible : isBlank c = false)
    (goes : ∀ next ∈ text.head?, isBlank next = false) (known : Runs text (run :: runs)) :
    Runs (c :: text) ((c :: run) :: runs) := by
  cases known with
  | @cons blanks _ rest _ blank some inner ends tail =>
    cases blanks with
    | nil =>
      exact .cons (List.forall_mem_nil _) (List.cons_ne_nil c run)
        (List.forall_mem_cons.mpr ⟨visible, inner⟩) ends tail
    | cons first blanks =>
      have shown : isBlank first = false := goes first rfl
      exact absurd (blank first List.mem_cons_self) (by simp [shown])

theorem wordsBlank {c : Char} (blank : isBlank c) : words (c :: text) = words text := by
  cases text <;> simp [words, blank]

theorem wordsStart {c : Char} (visible : isBlank c = false) (ends : ∀ next ∈ text.head?, isBlank next) :
    words (c :: text) = [c] :: words text := by
  cases text with
  | nil => simp [words, visible]
  | cons next text =>
    have blank : isBlank next := ends next rfl
    simp [words, visible, blank]

theorem wordsExtend {c next : Char} (visible : isBlank c = false) (goes : isBlank next = false)
    (found : words (next :: text) = run :: runs) :
    words (c :: next :: text) = (c :: run) :: runs := by
  rw [words]
  simp only [visible, goes, found, Bool.false_eq_true, if_false]

theorem runsWords (text : List Char) : Runs text (words text) := by
  induction text with
  | nil => exact .none (List.forall_mem_nil _)
  | cons c rest ih =>
    cases blank : isBlank c with
    | true =>
      rw [wordsBlank blank]
      exact ih.blank blank
    | false =>
      by_cases ends : ∀ next ∈ rest.head?, isBlank next
      · rw [wordsStart blank ends]
        exact ih.start blank ends
      · cases rest with
        | nil => exact absurd nofun ends
        | cons next rest =>
          have goes : isBlank next = false := by simpa using ends
          cases found : words (next :: rest) with
          | nil => exact absurd (wordsEmpty.mp found next List.mem_cons_self) (by simp [goes])
          | cons run runs =>
            rw [wordsExtend blank goes found]
            exact (found ▸ ih).extend blank (by simpa using goes)

theorem wordsSkip {blanks : List Char} (blank : ∀ c ∈ blanks, isBlank c) (text : List Char) :
    words (blanks ++ text) = words text := by
  induction blanks with
  | nil => rfl
  | cons c blanks ih =>
    obtain ⟨first, others⟩ := List.forall_mem_cons.mp blank
    exact (wordsBlank first).trans (ih others)

theorem wordsRun {rest : List Char} (some : run ≠ []) (visible : ∀ c ∈ run, isBlank c = false)
    (ends : ∀ c ∈ rest.head?, isBlank c) : words (run ++ rest) = run :: words rest := by
  induction run with
  | nil => exact absurd rfl some
  | cons c run ih =>
    obtain ⟨first, others⟩ := List.forall_mem_cons.mp visible
    cases run with
    | nil => exact wordsStart first ends
    | cons next run =>
      exact wordsExtend first (others next List.mem_cons_self) (ih (List.cons_ne_nil next run) others)

theorem runsIff : Runs text runs ↔ words text = runs := by
  constructor
  · intro known
    induction known with
    | none blank => exact wordsEmpty.mpr blank
    | cons blank some visible ends tail ih =>
      rw [List.append_assoc, wordsSkip blank, wordsRun some visible ends, ih]
  · rintro rfl
    exact runsWords text

end Text

namespace RepeatIndex

/-- Digits and the number that they write. -/
inductive Numeral : List Char → Nat → Prop where
  | one (digit : Fin 10) : Numeral [Nat.digitChar digit] digit
  | more {digits value} (front : Numeral digits value) (digit : Fin 10) :
      Numeral (digits ++ [Nat.digitChar digit]) (10 * value + digit)

/-- A word for an index: a number of 32 bits that is not zero, in front of which a plus may stand. -/
inductive Written : List Char → Nat → Prop where
  | bare {digits index} (numeral : Numeral digits index) (positive : 0 < index)
      (small : index < Nat.pow 2 32) : Written digits index
  | signed {digits index} (numeral : Numeral digits index) (positive : 0 < index)
      (small : index < Nat.pow 2 32) : Written ('+' :: digits) index

/-- A choice of how to write one index after others. -/
structure Form where
  blanks : List Char
  blank : ∀ c ∈ blanks, Text.isBlank c
  signed : Bool
  zeros : Nat

def Form.word (form : Form) (index : Nat) : List Char :=
  (if form.signed then ['+'] else []) ++ (List.replicate form.zeros '0' ++ Nat.toDigits 10 index)

/-- Indexes in their forms, one after the other, and the end of the text. -/
def layOut (last : List Char) : List (Form × Nat) → List Char
  | [] => last
  | (form, index) :: rest => form.blanks ++ form.word index ++ layOut last rest

variable {digits word : List Char} {value index : Nat}

theorem digitOfChar {c : Char} (isDigit : c.isDigit) : ∃ digit : Fin 10, c = Nat.digitChar digit := by
  have bounds : 48 ≤ c.toNat ∧ c.toNat ≤ 57 := Char.isDigit_iff_toNat.mp isDigit
  have small : c.toNat - 48 < 10 := by omega
  refine ⟨⟨c.toNat - 48, small⟩, Char.toNat_inj.mp ?_⟩
  rw [Nat.toNat_digitChar_of_lt_ten small]
  omega

theorem numeralIff : Numeral digits value ↔
    digits ≠ [] ∧ (∀ c ∈ digits, c.isDigit) ∧ Nat.ofDigitChars 10 digits 0 = value := by
  constructor
  · intro numeral
    induction numeral with
    | one digit =>
      refine ⟨List.cons_ne_nil _ _, by simp, ?_⟩
      rw [Nat.ofDigitChars_cons_digitChar_of_lt_ten digit.isLt, Nat.ofDigitChars_nil]
      omega
    | more front digit ih =>
      obtain ⟨_, each, same⟩ := ih
      refine ⟨by simp, List.forall_mem_append.mpr ⟨each, by simp⟩, ?_⟩
      rw [Nat.ofDigitChars_append, same, Nat.ofDigitChars_cons_digitChar_of_lt_ten digit.isLt,
        Nat.ofDigitChars_nil]
  · rintro ⟨some, each, rfl⟩
    -- The last digit counts one, so digits are taken from the end.
    induction digits using List.reverseRecOn with
    | nil => exact absurd rfl some
    | append_singleton front c ih =>
      obtain ⟨sound, last⟩ := List.forall_mem_append.mp each
      obtain ⟨digit, rfl⟩ := digitOfChar (last c List.mem_cons_self)
      rw [Nat.ofDigitChars_append, Nat.ofDigitChars_cons_digitChar_of_lt_ten digit.isLt,
        Nat.ofDigitChars_nil]
      cases front with
      | nil => simpa using Numeral.one digit
      | cons first front => exact .more (ih (List.cons_ne_nil first front) sound) digit

theorem numeralUnsigned (numeral : Numeral digits value) : unsigned digits = digits := by
  obtain ⟨_, each, _⟩ := numeralIff.mp numeral
  unfold unsigned
  split
  · next digits =>
    have plus : '+'.isDigit := each '+' List.mem_cons_self
    exact absurd plus (by decide)
  · rfl

theorem ofWordIff : ofWord? word = some index ↔
    Numeral (unsigned word) index ∧ 0 < index ∧ index < limit := by
  simp only [ofWord?, Option.ite_none_right_eq_some, Option.some.injEq, numeralIff, List.all_eq_true]
  constructor
  · rintro ⟨⟨some, each, positive, small⟩, rfl⟩
    exact ⟨⟨some, each, rfl⟩, positive, small⟩
  · rintro ⟨⟨some, each, rfl⟩, positive, small⟩
    exact ⟨⟨some, each, positive, small⟩, rfl⟩

theorem writtenIff : Written word index ↔ ofWord? word = some index := by
  rw [ofWordIff]
  constructor
  · intro written
    cases written with
    | bare numeral positive small => exact ⟨(numeralUnsigned numeral).symm ▸ numeral, positive, small⟩
    | signed numeral positive small => exact ⟨numeral, positive, small⟩
  · rintro ⟨numeral, positive, small⟩
    unfold unsigned at numeral
    split at numeral
    · exact .signed numeral positive small
    · exact .bare numeral positive small

theorem writtenSome : (∃ index, Written word index) ↔ (ofWord? word).isSome := by
  simp only [writtenIff, Option.isSome_iff_exists]

theorem writtenNone : (∀ index, ¬ Written word index) ↔ ofWord? word = none := by
  simp only [writtenIff, Option.eq_none_iff_forall_ne_some, ne_eq]

theorem numeralPadded (zeros index : Nat) :
    Numeral (List.replicate zeros '0' ++ Nat.toDigits 10 index) index := by
  refine numeralIff.mpr ⟨by simp [Nat.toDigits_ne_nil], ?_, ?_⟩
  · refine List.forall_mem_append.mpr ⟨fun c zero => ?_, fun c mem => ?_⟩
    · rw [List.eq_of_mem_replicate zero]
      rfl
    · exact Nat.isDigit_of_mem_toDigits (by decide) (by decide) mem
  · rw [Nat.ofDigitChars_append]
    have nothing : Nat.ofDigitChars 10 (List.replicate zeros '0') 0 = 0 := by
      induction zeros with
      | zero => rfl
      | succ zeros ih => exact ih
    rw [nothing, Nat.ofDigitChars_ten_toDigits]

theorem writtenWord (form : Form) (positive : 0 < index) (small : index < Nat.pow 2 32) :
    Written (form.word index) index := by
  have numeral := numeralPadded form.zeros index
  unfold Form.word
  split
  · exact .signed numeral positive small
  · exact .bare numeral positive small

theorem Numeral.visible (numeral : Numeral digits value) : ∀ c ∈ digits, Text.isBlank c = false := by
  have each : ∀ digit : Fin 10, Text.isBlank (Nat.digitChar digit) = false := by decide
  intro c mem
  obtain ⟨digit, rfl⟩ := digitOfChar ((numeralIff.mp numeral).2.1 c mem)
  exact each digit

theorem Written.run (written : Written word index) :
    word ≠ [] ∧ ∀ c ∈ word, Text.isBlank c = false := by
  cases written with
  | bare numeral => exact ⟨(numeralIff.mp numeral).1, numeral.visible⟩
  | signed numeral =>
    exact ⟨List.cons_ne_nil _ _, List.forall_mem_cons.mpr ⟨by decide, numeral.visible⟩⟩

theorem parsedIff {text : String} {indexes : List Nat} : parse text = .ok indexes ↔
    ∃ runs, Text.Runs text.toList runs ∧ List.Forall₂ Written runs indexes := by
  have same : Written = fun word index => ofWord? word = some index :=
    funext fun _ => funext fun _ => propext writtenIff
  simp only [parseOk, Text.runsIff, exists_eq_left', same]

theorem refusedIff {text : String} {invalid : Invalid} : parse text = .error invalid ↔
    ∃ before token after, Text.Runs text.toList (before ++ token :: after) ∧
      (∀ earlier ∈ before, ∃ index, Written earlier index) ∧ (∀ index, ¬ Written token index) ∧
        invalid = ⟨text, String.ofList token⟩ := by
  simp only [parseError, Text.runsIff, writtenSome, writtenNone]

section
variable {last : List Char} {entries : List (Form × Nat)}
  (ends : ∀ c ∈ last, Text.isBlank c)
include ends

theorem layOutStart (apart : ∀ entry ∈ entries, entry.1.blanks ≠ []) :
    ∀ c ∈ (layOut last entries).head?, Text.isBlank c := by
  cases entries with
  | nil => exact fun c head => ends c (List.mem_of_mem_head? head)
  | cons entry rest =>
    have some := apart entry List.mem_cons_self
    cases blanks : entry.1.blanks with
    | nil => exact absurd blanks some
    | cons first more =>
      have blank := entry.1.blank first (by simp [blanks])
      simpa [layOut, blanks] using blank

theorem runsLayOut (apart : ∀ entry ∈ entries.tail, entry.1.blanks ≠ [])
    (sound : ∀ entry ∈ entries, 0 < entry.2 ∧ entry.2 < Nat.pow 2 32) :
    Text.Runs (layOut last entries) (entries.map fun entry => entry.1.word entry.2) := by
  induction entries with
  | nil => exact .none ends
  | cons entry rest ih =>
    obtain ⟨⟨positive, small⟩, others⟩ := List.forall_mem_cons.mp sound
    obtain ⟨some, visible⟩ := (writtenWord entry.1 positive small).run
    have tail := ih (fun next mem => apart next (List.mem_of_mem_tail mem)) others
    exact .cons entry.1.blank some visible (layOutStart ends apart) tail

theorem layOutParsed (apart : ∀ entry ∈ entries.tail, entry.1.blanks ≠ [])
    (sound : ∀ entry ∈ entries, 0 < entry.2 ∧ entry.2 < Nat.pow 2 32) :
    parse (String.ofList (layOut last entries)) = .ok (entries.map Prod.snd) := by
  have runs := runsLayOut ends apart sound
  refine parsedIff.mpr ⟨_, by rwa [String.toList_ofList], ?_⟩
  rw [List.forall₂_map_left_iff, List.forall₂_map_right_iff, List.forall₂_same]
  exact fun entry mem => writtenWord entry.1 (sound entry mem).1 (sound entry mem).2

end

/-- A text is read as what its runs write, and refused for the first that writes no index. A list
that is laid out with blanks between its indexes is read back. -/
theorem indexesParsed :
    (∀ text indexes, parse text = .ok indexes ↔
      ∃ runs, Text.Runs text.toList runs ∧ List.Forall₂ Written runs indexes) ∧
    (∀ text invalid, parse text = .error invalid ↔
      ∃ before token after, Text.Runs text.toList (before ++ token :: after) ∧
        (∀ earlier ∈ before, ∃ index, Written earlier index) ∧ (∀ index, ¬ Written token index) ∧
          invalid = ⟨text, String.ofList token⟩) ∧
    ∀ (entries : List (Form × Nat)) (last : List Char), (∀ c ∈ last, Text.isBlank c) →
      (∀ entry ∈ entries.tail, entry.1.blanks ≠ []) →
      (∀ entry ∈ entries, 0 < entry.2 ∧ entry.2 < Nat.pow 2 32) →
      parse (String.ofList (layOut last entries)) = .ok (entries.map Prod.snd) :=
  ⟨fun _ _ => parsedIff, fun _ _ => refusedIff, fun _ _ ends apart sound =>
    layOutParsed ends apart sound⟩

theorem indexesParsedPadded : parse "\u00A0+0017\u20034294967295 " = .ok [17, 4294967295] :=
  indexesParsed.2.2
    [(⟨['\u00A0'], List.forall_mem_singleton.mpr rfl, true, 2⟩, 17),
      (⟨['\u2003'], List.forall_mem_singleton.mpr rfl, false, 0⟩, 4294967295)] [' ']
    (List.forall_mem_singleton.mpr rfl) (by simp) (by simp)

end RepeatIndex
end ActionTree

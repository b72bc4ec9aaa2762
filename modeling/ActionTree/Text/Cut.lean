/-! Cutting a text at a separator: at its first occurrence, or after its last one.
Each cut loses nothing, and the part that was searched is free of the separator. -/
namespace ActionTree.Text

def beforeFirst (separator : Char) (text : List Char) : List Char := text.takeWhile (· != separator)

/-- The text from the first separator on, that separator included. -/
def fromFirst (separator : Char) (text : List Char) : List Char := text.dropWhile (· != separator)

def afterLast (separator : Char) (text : List Char) : List Char :=
  (text.reverse.takeWhile (· != separator)).reverse

/-- The text up to the last separator, that separator included; empty without one. -/
def throughLast (separator : Char) (text : List Char) : List Char :=
  (text.reverse.dropWhile (· != separator)).reverse

theorem beforeFirstFromFirst (separator : Char) (text : List Char) :
    beforeFirst separator text ++ fromFirst separator text = text :=
  List.takeWhile_append_dropWhile

theorem throughLastAfterLast (separator : Char) (text : List Char) :
    throughLast separator text ++ afterLast separator text = text := by
  simp [throughLast, afterLast, ← List.reverse_append, List.takeWhile_append_dropWhile]

theorem notMemBeforeFirst (separator : Char) (text : List Char) :
    separator ∉ beforeFirst separator text := by
  induction text with
  | nil => simp [beforeFirst]
  | cons c rest ih =>
    by_cases same : c = separator
    · simp [beforeFirst, same]
    · simpa [beforeFirst, same, Ne.symm same] using ih

theorem fromFirstShape (separator : Char) (text : List Char) :
    fromFirst separator text = [] ∨ ∃ rest, fromFirst separator text = separator :: rest := by
  induction text with
  | nil => exact .inl rfl
  | cons c rest ih =>
    by_cases same : c = separator
    · exact .inr ⟨rest, by simp [fromFirst, same]⟩
    · simpa [fromFirst, same] using ih

theorem notMemAfterLast (separator : Char) (text : List Char) :
    separator ∉ afterLast separator text := by
  simpa [afterLast, beforeFirst] using notMemBeforeFirst separator text.reverse

theorem throughLastShape (separator : Char) (text : List Char) :
    throughLast separator text = [] ∨ ∃ init, throughLast separator text = init ++ [separator] := by
  rcases fromFirstShape separator text.reverse with nothing | ⟨rest, found⟩
  · exact .inl (by simpa [throughLast, fromFirst] using nothing)
  · refine .inr ⟨rest.reverse, ?_⟩
    have found : text.reverse.dropWhile (· != separator) = separator :: rest := found
    simp [throughLast, found]

theorem beforeFirstAppend {separator : Char} {text : List Char} (absent : separator ∉ text)
    (rest : List Char) : beforeFirst separator (text ++ separator :: rest) = text := by
  induction text with
  | nil => simp [beforeFirst]
  | cons c text ih =>
    have different : c ≠ separator := fun same => absent (same ▸ List.mem_cons_self)
    have tail := ih fun mem => absent (List.mem_cons_of_mem _ mem)
    simpa [beforeFirst, different] using tail

theorem beforeFirstOfAbsent {separator : Char} {text : List Char} (absent : separator ∉ text) :
    beforeFirst separator text = text := by
  induction text with
  | nil => rfl
  | cons c text ih =>
    have different : c ≠ separator := fun same => absent (same ▸ List.mem_cons_self)
    have tail := ih fun mem => absent (List.mem_cons_of_mem _ mem)
    simpa [beforeFirst, different] using tail

theorem fromFirstAppend {separator : Char} {text : List Char} (absent : separator ∉ text)
    (rest : List Char) : fromFirst separator (text ++ separator :: rest) = separator :: rest := by
  have whole := beforeFirstFromFirst separator (text ++ separator :: rest)
  rw [beforeFirstAppend absent] at whole
  exact List.append_cancel_left whole

theorem fromFirstEmpty {separator : Char} {text : List Char} :
    fromFirst separator text = [] ↔ separator ∉ text := by
  constructor
  · intro nothing
    have whole := beforeFirstFromFirst separator text
    rw [nothing, List.append_nil] at whole
    exact whole ▸ notMemBeforeFirst separator text
  · intro absent
    have whole := beforeFirstFromFirst separator text
    rw [beforeFirstOfAbsent absent] at whole
    exact List.append_right_eq_self.mp whole

section
variable {separator : Char} {front rest : List Char}
  (ended : front = [] ∨ ∃ init, front = init ++ [separator]) (absent : separator ∉ rest)
include ended absent

theorem afterLastAppend : afterLast separator (front ++ rest) = rest := by
  have absent : separator ∉ rest.reverse := by simpa using absent
  have found : beforeFirst separator (front ++ rest).reverse = rest.reverse := by
    rcases ended with rfl | ⟨init, rfl⟩
    · simpa using beforeFirstOfAbsent absent
    · simpa using beforeFirstAppend absent init.reverse
  exact List.reverse_eq_iff.mpr found

theorem throughLastAppend : throughLast separator (front ++ rest) = front := by
  have whole := throughLastAfterLast separator (front ++ rest)
  rw [afterLastAppend ended absent] at whole
  exact List.append_cancel_right whole

end

end ActionTree.Text

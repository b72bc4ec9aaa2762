import ActionTree.Json.Record
import Mathlib.Data.List.Forall2

/-! Spellings of a record. It is an object, in which optional fields may be missing and other keys
do not count, or an array of all its fields. A reader that takes in field by field reads every
spelling of a value as that value. -/
namespace ActionTree.Json

/-- A field of a value: how it may be written, and whether an object may leave it out. -/
structure FieldForm where
  name : String
  spelled : Json → Prop
  optional : Prop

inductive Spelling (forms : List FieldForm) : Json → Prop where
  | object {entries}
      (spelled : ∀ entry ∈ entries, ∀ form ∈ forms, entry.1 = form.name → form.spelled entry.2)
      (complete : ∀ form ∈ forms, form.name ∉ entries.map Prod.fst → form.optional) :
      Spelling forms (.object entries)
  | array {items} (spelled : List.Forall₂ FieldForm.spelled forms items) :
      Spelling forms (.array items)

def OptionSpelled {α : Type} (spelled : α → Json → Prop) : Option α → Json → Prop
  | none, json => json = .null
  | some value, json => spelled value json

def ListSpelled {α : Type} (spelled : α → Json → Prop) (values : List α) (json : Json) : Prop :=
  ∃ items, json = .array items ∧ List.Forall₂ spelled values items

section
variable {α Slots : Type} {forms : List FieldForm} {json : Json}

theorem Spelling.notNull (spelling : Spelling forms json) : json ≠ .null := by
  cases spelling <;> exact nofun

theorem readOptionSpelled {spelled : α → Json → Prop} {read : Json → Except ReadError α}
    (reads : ∀ value json, spelled value json → json ≠ .null ∧ read json = .ok value)
    {value? : Option α} (option : OptionSpelled spelled value? json) :
    readOption read json = .ok value? := by
  cases value? with
  | none =>
    cases option
    rfl
  | some value =>
    obtain ⟨present, same⟩ := reads value json option
    cases json with
    | null => exact absurd rfl present
    | _ => simp [readOption, same, Except.map]

theorem mapMSpelled {ι : Type} {spelled : α → ι → Prop} {read : ι → Except ReadError α}
    {values : List α} {items : List ι} (each : List.Forall₂ spelled values items)
    (reads : ∀ value ∈ values, ∀ item, spelled value item → read item = .ok value) :
    items.mapM read = .ok values := by
  induction each with
  | nil => rfl
  | cons first _ ih =>
    obtain ⟨here, later⟩ := List.forall_mem_cons.mp reads
    simp [List.mapM_cons, here _ first, ih later, bind, Except.bind, pure, Except.pure]

theorem readListSpelled {spelled : α → Json → Prop} {read : Json → Except ReadError α}
    {values : List α} (list : ListSpelled spelled values json)
    (reads : ∀ value ∈ values, ∀ json, spelled value json → read json = .ok value) :
    readList read json = .ok values := by
  obtain ⟨items, rfl, each⟩ := list
  exact mapMSpelled each reads

theorem seenOr {field : String} {seen : List String} {value default : α}
    (complete : field ∉ seen → value = default) : (if field ∈ seen then value else default) = value := by
  split
  · rfl
  · next absent => exact (complete absent).symm

/-- The fields of a value go into their slots one by one. `filled seen` are the slots that hold
the fields in `seen` and are open elsewhere. -/
structure Record.Takes (record : Record Slots α) (forms : List FieldForm) (value : α)
    (filled : List String → Slots) : Prop where
  fields : record.fields.map Prod.fst = forms.map FieldForm.name
  distinct : (forms.map FieldForm.name).Nodup
  start : record.start = filled []
  step {seen key json} (spelled : ∀ form ∈ forms, key = form.name → form.spelled json) :
    record.step (filled seen) key json = .ok (filled (key :: seen))
  finish {seen} (complete : ∀ form ∈ forms, form.name ∉ seen → form.optional) :
    record.finish (filled seen) = .ok value

namespace Record
variable {record : Record Slots α} {value : α} {filled : List String → Slots}

theorem Takes.entries (takes : record.Takes forms value filled) {entries : List (String × Json)}
    (spelled : ∀ entry ∈ entries, ∀ form ∈ forms, entry.1 = form.name → form.spelled entry.2)
    (seen : List String) :
    entries.foldlM (fun slots entry => record.step slots entry.1 entry.2) (filled seen) =
      .ok (filled ((entries.map Prod.fst).reverse ++ seen)) := by
  induction entries generalizing seen with
  | nil => rfl
  | cons entry rest ih =>
    obtain ⟨here, later⟩ := List.forall_mem_cons.mp spelled
    rw [List.foldlM_cons, takes.step here]
    change List.foldlM _ (filled (entry.1 :: seen)) rest = _
    rw [ih later (entry.1 :: seen)]
    simp

theorem checkLengthFull (name : String) (fields : List (String × Bool)) :
    checkLength name fields fields.length = .ok () := by
  have full : shortAt? fields fields.length = none := by
    unfold shortAt?
    rw [List.find?_eq_none]
    intro position member
    have inside := List.mem_range.mp member
    simp [Nat.not_le.mpr inside]
  simp [checkLength, full]

theorem namedSpelled {items : List Json} (distinct : (forms.map FieldForm.name).Nodup)
    (each : List.Forall₂ FieldForm.spelled forms items) :
    ∀ entry ∈ (forms.map FieldForm.name).zip items, ∀ form ∈ forms, entry.1 = form.name →
      form.spelled entry.2 := by
  induction each with
  | nil => simp
  | @cons first item rest items spelled _ ih =>
    obtain ⟨fresh, others⟩ := List.nodup_cons.mp distinct
    have named {form : FieldForm} (member : form ∈ rest) : form.name ∈ rest.map FieldForm.name :=
      List.mem_map_of_mem member
    intro entry among form member same
    rcases List.mem_cons.mp among with rfl | later
    · rcases List.mem_cons.mp member with rfl | other
      · exact spelled
      · have here : first.name = form.name := same
        exact absurd (here ▸ named other) fresh
    · rcases List.mem_cons.mp member with rfl | other
      · exact absurd (same ▸ (List.of_mem_zip later).1) fresh
      · exact ih others entry later form other same

theorem Takes.reads (takes : record.Takes forms value filled) (spelling : Spelling forms json) :
    record.read json = .ok value := by
  cases spelling with
  | @object entries spelled complete =>
    have ended : record.finish (filled ((entries.map Prod.fst).reverse ++ [])) = .ok value :=
      takes.finish fun form member absent => complete form member (by simpa using absent)
    simpa [read, takes.start, takes.entries spelled [], bind, Except.bind] using ended
  | @array items spelled =>
    have named := namedSpelled takes.distinct spelled
    have size : items.length = record.fields.length := by
      have names := congrArg List.length takes.fields
      have same := spelled.length_eq
      simp only [List.length_map] at names
      omega
    have pairs : (record.fields.zip items).foldlM
        (fun slots field => record.step slots field.1.1 field.2) (filled []) =
          .ok (filled ((((forms.map FieldForm.name).zip items).map Prod.fst).reverse ++ [])) := by
      rw [← takes.entries named [], ← takes.fields, List.zip_map_left, List.foldlM_map]
      rfl
    have all : ((forms.map FieldForm.name).zip items).map Prod.fst = forms.map FieldForm.name :=
      List.map_fst_zip (by simp [spelled.length_eq])
    have ended : record.finish (filled ((forms.map FieldForm.name).reverse ++ [])) = .ok value :=
      takes.finish fun form member absent => absurd (List.mem_map_of_mem member) (by simpa using absent)
    rw [all] at pairs
    simpa [read, takes.start, pairs, size, checkLengthFull, bind, Except.bind] using ended

end Record
end
end ActionTree.Json

import ActionTree.Proofs.Qualifiers
import Mathlib.Data.Finset.Card
import Mathlib.Data.List.Induction

/-! What is entered under a key again replaces what was there. So a registry answers with the last
registration under an expanded name, whatever the qualifiers were, and holds as many entries as
there were such names. -/
namespace ActionTree
namespace Overwriting

section
variable {α κ : Type} [DecidableEq κ] (key : α → κ)

def first? (wanted : κ) (entries : List α) : Option α := entries.find? fun entry => key entry = wanted

def last? (wanted : κ) (entries : List α) : Option α := first? key wanted entries.reverse

theorem firstCons (wanted : κ) (entry : α) (rest : List α) : first? key wanted (entry :: rest) =
    if key entry = wanted then some entry else first? key wanted rest := by
  by_cases same : key entry = wanted <;> simp [first?, same]

theorem firstAppend (wanted : κ) (before after : List α) : first? key wanted (before ++ after) =
    (first? key wanted before).or (first? key wanted after) :=
  List.find?_append

theorem lastConcat (wanted : κ) (entries : List α) (entry : α) :
    last? key wanted (entries ++ [entry]) =
      if key entry = wanted then some entry else last? key wanted entries := by
  rw [last?, List.reverse_concat, firstCons, last?]

theorem firstMember {entries : List α} (distinct : (entries.map key).Nodup) {entry : α}
    (member : entry ∈ entries) : first? key (key entry) entries = some entry := by
  induction entries with
  | nil => cases member
  | cons head rest ih =>
    obtain ⟨fresh, tail⟩ := List.nodup_cons.mp distinct
    rw [firstCons]
    rcases List.mem_cons.mp member with rfl | later
    · rw [if_pos rfl]
    · have other : key head ≠ key entry := fun same => fresh (same ▸ List.mem_map_of_mem later)
      rw [if_neg other, ih tail later]

theorem lastSwap {a b : α} (apart : key a ≠ key b) (wanted : κ) (before after : List α) :
    last? key wanted (before ++ a :: b :: after) = last? key wanted (before ++ b :: a :: after) := by
  have swapped : first? key wanted [b, a] = first? key wanted [a, b] := by
    simp only [firstCons]
    split <;> split <;> simp_all
  simp only [last?, List.reverse_append, List.reverse_cons, firstAppend, List.append_assoc,
    List.singleton_append, swapped]

/-! What one entry does to a state, and hence what entering one after the other does. -/

variable {σ β : Type} {enter : σ → α → σ} {start : σ} {key}

theorem foldLast {wanted : κ} (look : σ → Option β) {view : α → β}
    (entered : ∀ state entry, look (enter state entry) =
      if key entry = wanted then some (view entry) else look state)
    (empty : look start = none) (entries : List α) :
    look (entries.foldl enter start) = (last? key wanted entries).map view := by
  induction entries using List.reverseRecOn with
  | nil => exact empty
  | append_singleton entries entry ih =>
    rw [List.foldl_concat, entered, ih, lastConcat]
    split <;> rfl

theorem foldFirst {wanted : κ} (look : σ → Option β) {view : α → β}
    (entered : ∀ state entry, look (enter state entry) =
      (look state).or (if key entry = wanted then some (view entry) else none))
    (empty : look start = none) (entries : List α) :
    look (entries.foldl enter start) = (first? key wanted entries).map view := by
  induction entries using List.reverseRecOn with
  | nil => exact empty
  | append_singleton entries entry ih =>
    rw [List.foldl_concat, entered, ih, firstAppend, firstCons, Option.map_or]
    split <;> rfl

end
section
variable {α κ : Type} [BEq κ] [LawfulBEq κ]

theorem eraseDupsConcat (keys : List κ) (new : κ) : (keys ++ [new]).eraseDups =
    if new ∈ keys.eraseDups then keys.eraseDups else keys.eraseDups ++ [new] := by
  rw [List.eraseDups_append]
  by_cases seen : new ∈ keys <;>
    simp [List.removeAll, List.mem_eraseDups, seen, List.eraseDups_cons]

theorem eraseDupsDistinct (keys : List κ) : keys.eraseDups.Nodup := by
  induction keys using List.reverseRecOn with
  | nil => exact List.nodup_nil
  | append_singleton keys new ih =>
    rw [eraseDupsConcat]
    split
    · exact ih
    · rename_i absent
      refine List.nodup_append.mpr ⟨ih, List.nodup_singleton _, fun held member other only same => ?_⟩
      exact absent (List.mem_singleton.mp only ▸ same ▸ member)

theorem foldKeys {σ : Type} {enter : σ → α → σ} {start : σ} {key : α → κ} (keys : σ → List κ)
    (entered : ∀ state entry, keys (enter state entry) =
      if key entry ∈ keys state then keys state else keys state ++ [key entry])
    (empty : keys start = []) (entries : List α) :
    keys (entries.foldl enter start) = (entries.map key).eraseDups := by
  induction entries using List.reverseRecOn with
  | nil => exact empty
  | append_singleton entries entry ih =>
    rw [List.foldl_concat, entered, ih, List.map_append, List.map_singleton, eraseDupsConcat]

end
end Overwriting

open Overwriting (first? last?)

/-- A value for a name, or for a local part in a namespace. -/
inductive Registration (α : Type) where
  | named (name : Name) (value : α)
  | inNamespace (uri localPart : String) (value : α)

namespace Registration
variable {α : Type}

def key : Registration α → Option String × String
  | named name _ => name.expanded
  | inNamespace uri localPart _ => (some uri, localPart)

def value : Registration α → α
  | named _ value => value
  | inNamespace _ _ value => value

/-- How it is registered. A namespace alone comes without a qualifier. -/
def entry : Registration α → Name × α
  | named name value => (name, value)
  | inNamespace uri localPart value => (.inNamespace uri "" localPart, value)

theorem entryEq (registration : Registration α) :
    registration.entry.1.expanded = registration.key ∧ registration.entry.2 = registration.value := by
  cases registration <;> exact ⟨rfl, rfl⟩

end Registration

namespace Registry
variable {α : Type}

def registered (registrations : List (Registration α)) : Registry α :=
  ofList (registrations.map Registration.entry)

def keys (registry : Registry α) : List (Option String × String) := registry.entries.map Prod.fst

theorem keysReplace (key : Option String × String) (value : α)
    (entries : List ((Option String × String) × α)) :
    (replace key value entries).map Prod.fst =
      if key ∈ entries.map Prod.fst then entries.map Prod.fst else entries.map Prod.fst ++ [key] := by
  induction entries with
  | nil => simp [replace]
  | cons held rest ih =>
    by_cases same : held.1 = key
    · simp [replace, same]
    · simp only [replace, if_neg same, List.map_cons, ih, List.mem_cons, Ne.symm same, false_or]
      split <;> simp

theorem registeredFold (registrations : List (Registration α)) :
    registered registrations = registrations.foldl
      (fun registry one => registry.register one.entry.1 one.entry.2) .empty :=
  List.foldl_map

theorem lookupRegistered (registrations : List (Registration α)) (asked : Name) :
    (registered registrations).lookup? asked =
      (last? Registration.key asked.expanded registrations).map Registration.value := by
  rw [registeredFold]
  apply Overwriting.foldLast (lookup? · asked)
  · intro registry one
    obtain ⟨key, value⟩ := one.entryEq
    have same : one.entry.1.Same asked ↔ one.key = asked.expanded := by rw [← key]; rfl
    rw [lookupRegister]
    exact if_congr same (congrArg some value) rfl
  · rfl

theorem keysRegistered (registrations : List (Registration α)) :
    (registered registrations).keys = (registrations.map Registration.key).eraseDups := by
  rw [registeredFold]
  apply Overwriting.foldKeys keys
  · intro registry one
    rw [← one.entryEq.1]
    exact keysReplace _ _ _
  · rfl

theorem sizeRegistered (registrations : List (Registration α)) :
    (registered registrations).size = (registrations.map Registration.key).toFinset.card := by
  have sameKeys : (registered registrations).keys.toFinset =
      (registrations.map Registration.key).toFinset := by
    ext key
    rw [keysRegistered, List.mem_toFinset, List.mem_eraseDups, List.mem_toFinset]
  calc (registered registrations).size
    _ = (registered registrations).keys.length := (List.length_map _).symm
    _ = (registered registrations).keys.toFinset.card :=
      (List.toFinset_card_of_nodup (registered registrations).distinct).symm
    _ = (registrations.map Registration.key).toFinset.card := by rw [sameKeys]

/-- A registry answers with what was registered last under an expanded name. -/
theorem lastRegistrationAnswers {α : Type} :
    (∀ registrations : List (Registration α),
      (∀ asked : Name,
        (registered registrations).lookup? asked =
          (last? Registration.key asked.expanded registrations).map Registration.value ∧
        ((registered registrations).contains asked = true ↔
          ∃ value, (registered registrations).lookup? asked = some value)) ∧
      (registered registrations).size = (registrations.map Registration.key).toFinset.card ∧
      ((registered registrations).isEmpty = true ↔ (registered registrations).size = 0)) ∧
    ∀ (before after : List (Registration α)) (a b : Registration α), a.key ≠ b.key →
      (∀ asked, (registered (before ++ a :: b :: after)).lookup? asked =
        (registered (before ++ b :: a :: after)).lookup? asked) ∧
      (registered (before ++ a :: b :: after)).size =
        (registered (before ++ b :: a :: after)).size := by
  refine ⟨fun registrations => ⟨fun asked => ⟨lookupRegistered registrations asked, ?_⟩,
    sizeRegistered registrations, ?_⟩, fun before after a b apart => ⟨fun asked => ?_, ?_⟩⟩
  · rw [containsEq, Option.isSome_iff_exists]
  · rw [isEmpty, size, List.isEmpty_iff, List.length_eq_zero_iff]
  · rw [lookupRegistered, lookupRegistered, Overwriting.lastSwap Registration.key apart]
  · have swapped : (before ++ a :: b :: after).Perm (before ++ b :: a :: after) :=
      (List.Perm.swap b a after).append_left before
    rw [sizeRegistered, sizeRegistered, List.toFinset_eq_of_perm _ _ (swapped.map _)]

def withQualifier : Registration Nat := .named (.inNamespace "urn:x" "a" "setvalue") 0

def withoutQualifier : Registration Nat := .inNamespace "urn:x" "setvalue" 1

def inNoNamespace : Registration Nat := .named (.unqualified "setvalue") 2

theorem lastRegistrationAnswersAnyQualifier :
    let registrations := [withQualifier, withoutQualifier, inNoNamespace]
    (registered registrations).lookup? (.inNamespace "urn:x" "b" "setvalue") = some 1 ∧
      (registered registrations).size = 2 ∧ withoutQualifier.key ≠ inNoNamespace.key ∧
      (registered registrations).size =
        (registered [withQualifier, inNoNamespace, withoutQualifier]).size := by
  obtain ⟨answers, swap⟩ := @lastRegistrationAnswers Nat
  obtain ⟨asked, size, _⟩ := answers [withQualifier, withoutQualifier, inNoNamespace]
  have apart : withoutQualifier.key ≠ inNoNamespace.key := by decide
  exact ⟨(asked (.inNamespace "urn:x" "b" "setvalue")).1.trans (by decide), size.trans (by decide),
    apart, (swap [withQualifier] [] withoutQualifier inNoNamespace apart).2⟩

end Registry
end ActionTree

/-! Finite maps keyed by text, kept in ascending key order. A key occurs once and
the entries alone decide equality, so two maps with the same look-ups are one value. -/
namespace ActionTree

structure StringMap (α : Type) where
  entries : List (String × α)
  ascending : entries.Pairwise (fun a b => a.1 < b.1)
  deriving DecidableEq

namespace StringMap

def insertEntry {α : Type} (key : String) (value : α) : List (String × α) → List (String × α)
  | [] => [(key, value)]
  | entry :: rest =>
      if key < entry.1 then (key, value) :: entry :: rest
      else if key = entry.1 then (key, value) :: rest
      else entry :: insertEntry key value rest

theorem memInsertEntry {α : Type} {key : String} {value : α} {entry : String × α}
    {entries : List (String × α)} (mem : entry ∈ insertEntry key value entries) :
    entry = (key, value) ∨ entry ∈ entries := by
  induction entries with
  | nil => simpa [insertEntry] using mem
  | cons head rest ih =>
    simp only [insertEntry] at mem
    split at mem
    · exact List.mem_cons.mp mem
    · split at mem
      · rcases List.mem_cons.mp mem with same | old
        · exact .inl same
        · exact .inr (List.mem_cons_of_mem _ old)
      · rcases List.mem_cons.mp mem with same | old
        · exact .inr (same ▸ List.mem_cons_self)
        · exact (ih old).imp id (List.mem_cons_of_mem _)

theorem ascendingInsertEntry {α : Type} (key : String) (value : α) {entries : List (String × α)}
    (ascending : entries.Pairwise (fun a b => a.1 < b.1)) :
    (insertEntry key value entries).Pairwise (fun a b => a.1 < b.1) := by
  induction entries with
  | nil => simp [insertEntry]
  | cons head rest ih =>
    obtain ⟨below, tail⟩ := List.pairwise_cons.mp ascending
    simp only [insertEntry]
    split
    · rename_i before
      refine List.pairwise_cons.mpr ⟨fun entry mem => ?_, ascending⟩
      rcases List.mem_cons.mp mem with rfl | later
      · exact before
      · exact String.lt_trans before (below entry later)
    · split
      · rename_i same
        exact List.pairwise_cons.mpr ⟨fun entry mem => same ▸ below entry mem, tail⟩
      · rename_i notBefore different
        have after : head.1 < key := Decidable.byContradiction fun notAfter =>
          different (String.le_antisymm (String.not_lt.mp notAfter) (String.not_lt.mp notBefore))
        refine List.pairwise_cons.mpr ⟨fun entry mem => ?_, ih tail⟩
        rcases memInsertEntry mem with rfl | old
        · exact after
        · exact below entry old

def empty {α : Type} : StringMap α := ⟨[], .nil⟩

instance {α : Type} : EmptyCollection (StringMap α) := ⟨empty⟩

/-- The last insertion under a key wins. -/
def insert {α : Type} (map : StringMap α) (key : String) (value : α) : StringMap α :=
  ⟨insertEntry key value map.entries, ascendingInsertEntry key value map.ascending⟩

def valueAt? {α : Type} (entries : List (String × α)) (key : String) : Option α :=
  (entries.find? fun entry => entry.1 = key).map Prod.snd

def get? {α : Type} (map : StringMap α) (key : String) : Option α := valueAt? map.entries key

theorem valueAtInsertEntry {α : Type} (key key' : String) (value : α)
    (entries : List (String × α)) : valueAt? (insertEntry key value entries) key' =
      if key = key' then some value else valueAt? entries key' := by
  induction entries with
  | nil => by_cases same : key = key' <;> simp [insertEntry, valueAt?, same]
  | cons head rest ih =>
    simp only [insertEntry]
    split
    · by_cases same : key = key' <;> simp [valueAt?, same]
    · split
      · rename_i replaced
        by_cases same : key = key'
        · simp [valueAt?, same]
        · simp [valueAt?, same, ← replaced]
      · rename_i different
        by_cases first : head.1 = key'
        · have other : key ≠ key' := fun same => different (same.trans first.symm)
          simp [valueAt?, first, other]
        · simpa [valueAt?, first] using ih

theorem getInsert {α : Type} (map : StringMap α) (key key' : String) (value : α) :
    (map.insert key value).get? key' = if key = key' then some value else map.get? key' :=
  valueAtInsertEntry key key' value map.entries

def isEmpty {α : Type} (map : StringMap α) : Bool := map.entries.isEmpty

def ofList {α : Type} (entries : List (String × α)) : StringMap α :=
  entries.foldl (fun map entry => map.insert entry.1 entry.2) empty

theorem insertEntryLast {α : Type} {key : String} {entries : List (String × α)}
    (below : ∀ entry ∈ entries, entry.1 < key) (value : α) :
    insertEntry key value entries = entries ++ [(key, value)] := by
  induction entries with
  | nil => rfl
  | cons head rest ih =>
    obtain ⟨first, later⟩ := List.forall_mem_cons.mp below
    have notBefore : ¬ key < head.1 := String.lt_asymm first
    have different : key ≠ head.1 := fun same => String.lt_irrefl head.1 (same ▸ first)
    simp [insertEntry, notBefore, different, ih later]

theorem foldInsert {α : Type} (map : StringMap α) {entries : List (String × α)}
    (ascending : (map.entries ++ entries).Pairwise (fun a b => a.1 < b.1)) :
    (entries.foldl (fun map entry => map.insert entry.1 entry.2) map).entries =
      map.entries ++ entries := by
  induction entries generalizing map with
  | nil => simp
  | cons head rest ih =>
    have below : ∀ entry ∈ map.entries, entry.1 < head.1 := fun entry member =>
      (List.pairwise_append.mp ascending).2.2 entry member head List.mem_cons_self
    have inserted : (map.insert head.1 head.2).entries = map.entries ++ [head] :=
      insertEntryLast below head.2
    rw [List.foldl_cons, ih _ (by simpa [inserted] using ascending), inserted]
    simp

theorem ofListEntries {α : Type} (map : StringMap α) : ofList map.entries = map := by
  have same : (ofList map.entries).entries = map.entries := foldInsert empty map.ascending
  generalize ofList map.entries = other at same
  cases other
  cases map
  cases same
  rfl

end StringMap
end ActionTree

import ActionTree.Name

/-! Registrations by expanded name. Registering a name again replaces what was
registered before, whatever the qualifiers were. -/
namespace ActionTree

structure Registry (α : Type) where
  entries : List ((Option String × String) × α)
  distinct : (entries.map Prod.fst).Nodup

namespace Registry
variable {α : Type}

def replace (key : Option String × String) (value : α) :
    List ((Option String × String) × α) → List ((Option String × String) × α)
  | [] => [(key, value)]
  | entry :: rest => if entry.1 = key then (key, value) :: rest else entry :: replace key value rest

theorem memKeysReplace {key key' : Option String × String} {value : α}
    {entries : List ((Option String × String) × α)} :
    key' ∈ (replace key value entries).map Prod.fst ↔ key' = key ∨ key' ∈ entries.map Prod.fst := by
  induction entries with
  | nil => simp [replace]
  | cons entry rest ih =>
    by_cases same : entry.1 = key
    · simp [replace, same]
    · simp only [replace, same, if_false, List.map_cons, List.mem_cons, ih]
      exact or_left_comm

theorem distinctReplace (key : Option String × String) (value : α)
    {entries : List ((Option String × String) × α)} (distinct : (entries.map Prod.fst).Nodup) :
    ((replace key value entries).map Prod.fst).Nodup := by
  induction entries with
  | nil => simp [replace]
  | cons entry rest ih =>
    obtain ⟨fresh, tail⟩ := List.nodup_cons.mp distinct
    by_cases same : entry.1 = key
    · simpa [replace, same] using distinct
    · simp only [replace, same, if_false, List.map_cons]
      refine List.nodup_cons.mpr ⟨fun mem => ?_, ih tail⟩
      rcases memKeysReplace.mp mem with found | old
      · exact same found
      · exact fresh old

def empty : Registry α := ⟨[], .nil⟩

def register (registry : Registry α) (name : Name) (value : α) : Registry α :=
  ⟨replace name.expanded value registry.entries, distinctReplace _ _ registry.distinct⟩

def valueAt? (entries : List ((Option String × String) × α)) (key : Option String × String) :
    Option α :=
  (entries.find? fun entry => entry.1 = key).map Prod.snd

def lookup? (registry : Registry α) (name : Name) : Option α :=
  valueAt? registry.entries name.expanded

theorem valueAtReplace (key key' : Option String × String) (value : α)
    (entries : List ((Option String × String) × α)) : valueAt? (replace key value entries) key' =
      if key = key' then some value else valueAt? entries key' := by
  induction entries with
  | nil => by_cases same : key = key' <;> simp [replace, valueAt?, same]
  | cons entry rest ih =>
    by_cases replaced : entry.1 = key
    · by_cases same : key = key' <;> simp [replace, valueAt?, replaced, same]
    · by_cases first : entry.1 = key'
      · subst first
        simp [replace, valueAt?, replaced, Ne.symm replaced]
      · simpa [replace, valueAt?, replaced, first] using ih

theorem lookupRegister (registry : Registry α) (name asked : Name) (value : α) :
    (registry.register name value).lookup? asked =
      if name.Same asked then some value else registry.lookup? asked :=
  valueAtReplace name.expanded asked.expanded value registry.entries

def contains (registry : Registry α) (name : Name) : Bool :=
  registry.entries.any fun entry => entry.1 = name.expanded

theorem containsEq (registry : Registry α) (name : Name) :
    registry.contains name = (registry.lookup? name).isSome := by
  rw [Bool.eq_iff_iff]
  simp [contains, lookup?, valueAt?]

def size (registry : Registry α) : Nat := registry.entries.length

def isEmpty (registry : Registry α) : Bool := registry.entries.isEmpty

end Registry
end ActionTree

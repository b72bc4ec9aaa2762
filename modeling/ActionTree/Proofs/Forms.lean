import ActionTree.Action.Builder
import ActionTree.Json.Forms
import ActionTree.Proofs.Spelling

/-! Spellings of names, positions, scopes and actions. What is written for an action is one of its
spellings, and every spelling is read as the action itself, with the qualifiers of all names. -/
namespace ActionTree
open Json (FieldForm Spelling OptionSpelled ListSpelled ReadError readText readWord readOption
  readList readMap required seenOr)

theorem Json.readTextSpelled (text? : Option String) :
    readOption readText (.ofOption .string text?) = .ok text? := by
  cases text? with
  | none => rfl
  | some text => rfl

theorem Json.readWordSpelled (word : UInt32) : readWord (.integer word.toNat) = .ok word := by
  have small := word.toNat_lt
  have inside : (0 : Int) ≤ word.toNat ∧ (word.toNat : Int) < Nat.pow 2 32 := by
    refine ⟨Int.natCast_nonneg _, ?_⟩
    simp
    omega
  rw [readWord, if_pos inside]
  simp

theorem Json.readMapSpelled (map : StringMap String) :
    readMap readText (.ofMap .string map) = .ok map := by
  have each : List.Forall₂ (fun entry item => item = (entry.1, Json.string entry.2)) map.entries
      (map.entries.map fun entry => (entry.1, Json.string entry.2)) :=
    List.forall₂_map_right_iff.mpr (List.forall₂_same.mpr fun _ _ => rfl)
  have values : (map.entries.map fun entry => (entry.1, Json.string entry.2)).mapM
      (fun entry => (readText entry.2).map (entry.1, ·)) = .ok map.entries :=
    mapMSpelled each fun entry _ item same => by
      subst same
      rfl
  simp [Json.ofMap, readMap, values, bind, Except.bind, pure, Except.pure, StringMap.ofListEntries]

namespace Name

def forms (name : Name) : List FieldForm :=
  [⟨"prefix", (· = .ofOption .string name.qualifier?), name.qualifier? = none⟩,
   ⟨"local", (· = .string name.localPart), False⟩,
   ⟨"ns_uri", (· = .ofOption .string name.uri?), name.uri? = none⟩]

def Spelled (name : Name) : Json → Prop := Spelling name.forms

def filled (name : Name) (seen : List String) : NameSlots where
  qualifier? := if "prefix" ∈ seen then name.qualifier? else none
  localPart? := if "local" ∈ seen then some name.localPart else none
  uri? := if "ns_uri" ∈ seen then name.uri? else none

theorem takes (name : Name) : record.Takes name.forms name name.filled where
  fields := rfl
  distinct := by simp [forms]
  start := by simp [record, filled]
  step {seen key json} spelled := by
    simp only [forms, List.forall_mem_cons] at spelled
    obtain ⟨qualifier, localPart, uri, _⟩ := spelled
    simp only [record]
    split
    · cases qualifier rfl
      simp [Json.readTextSpelled, Except.map, filled]
    · cases localPart rfl
      simp [readText, Except.map, filled]
    · cases uri rfl
      simp [Json.readTextSpelled, Except.map, filled]
    · simp_all [filled, eq_comm]
  finish {seen} complete := by
    simp only [forms, List.forall_mem_cons] at complete
    obtain ⟨qualifier, localPart, uri, _⟩ := complete
    simp [record, filled, seenOr qualifier, seenOr uri, Classical.not_not.mp localPart, required,
      Except.map]

theorem readSpelled {name : Name} {json : Json} (spelled : name.Spelled json) :
    record.read json = .ok name :=
  name.takes.reads spelled

theorem spelledToJson (name : Name) : name.Spelled name.toJson :=
  .object (by simp [forms]) (by simp [forms])

end Name

namespace Location

def forms (location : Location) : List FieldForm :=
  [⟨"system_id", (· = .ofOption .string location.systemId?), location.systemId? = none⟩,
   ⟨"line", (· = .integer location.line.toNat), False⟩,
   ⟨"column", (· = .integer location.column.toNat), False⟩]

def Spelled (location : Location) : Json → Prop := Spelling location.forms

def filled (location : Location) (seen : List String) : LocationSlots where
  systemId? := if "system_id" ∈ seen then location.systemId? else none
  line? := if "line" ∈ seen then some location.line else none
  column? := if "column" ∈ seen then some location.column else none

theorem takes (location : Location) : record.Takes location.forms location location.filled where
  fields := rfl
  distinct := by simp [forms]
  start := by simp [record, filled]
  step {seen key json} spelled := by
    simp only [forms, List.forall_mem_cons] at spelled
    obtain ⟨systemId, line, column, _⟩ := spelled
    simp only [record]
    split
    · cases systemId rfl
      simp [Json.readTextSpelled, Except.map, filled]
    · cases line rfl
      rw [Json.readWordSpelled]
      simp [Except.map, filled]
    · cases column rfl
      rw [Json.readWordSpelled]
      simp [Except.map, filled]
    · simp_all [filled, eq_comm]
  finish {seen} complete := by
    simp only [forms, List.forall_mem_cons] at complete
    obtain ⟨systemId, line, column, _⟩ := complete
    simp [record, filled, seenOr systemId, Classical.not_not.mp line, Classical.not_not.mp column,
      required, bind, Except.bind, pure, Except.pure]

theorem readSpelled {location : Location} {json : Json} (spelled : location.Spelled json) :
    record.read json = .ok location :=
  location.takes.reads spelled

theorem spelledToJson (location : Location) : location.Spelled location.toJson :=
  .object (by simp [forms]) (by simp [forms])

end Location

namespace Attribute

def forms (held : Attribute) : List FieldForm :=
  [⟨"name", held.name.Spelled, False⟩, ⟨"value", (· = .string held.value), False⟩]

def Spelled (held : Attribute) : Json → Prop := Spelling held.forms

def filled (held : Attribute) (seen : List String) : AttributeSlots where
  name? := if "name" ∈ seen then some held.name else none
  value? := if "value" ∈ seen then some held.value else none

theorem takes (held : Attribute) : record.Takes held.forms held held.filled where
  fields := rfl
  distinct := by simp [forms]
  start := by simp [record, filled]
  step {seen key json} spelled := by
    simp only [forms, List.forall_mem_cons] at spelled
    obtain ⟨name, value, _⟩ := spelled
    simp only [record]
    split
    · simp [Name.readSpelled (name rfl), Except.map, filled]
    · cases value rfl
      simp [readText, Except.map, filled]
    · simp_all [filled, eq_comm]
  finish {seen} complete := by
    simp only [forms, List.forall_mem_cons] at complete
    obtain ⟨name, value, _⟩ := complete
    simp [record, filled, Classical.not_not.mp name, Classical.not_not.mp value, required, bind,
      Except.bind, pure, Except.pure]

theorem readSpelled {held : Attribute} {json : Json} (spelled : held.Spelled json) :
    record.read json = .ok held :=
  held.takes.reads spelled

theorem spelledToJson (held : Attribute) : held.Spelled held.toJson :=
  .object (by simp [forms, held.name.spelledToJson]) (by simp [forms])

end Attribute

namespace Namespaces

def forms (namespaces : Namespaces) : List FieldForm :=
  [⟨"by_prefix", (· = .ofMap .string namespaces), False⟩]

def Spelled (namespaces : Namespaces) : Json → Prop := Spelling (forms namespaces)

def filled (namespaces : Namespaces) (seen : List String) : Option Namespaces :=
  if "by_prefix" ∈ seen then some namespaces else none

theorem takes (namespaces : Namespaces) :
    record.Takes (forms namespaces) namespaces (filled namespaces) where
  fields := rfl
  distinct := by simp [forms]
  start := by simp [record, filled]
  step {seen key json} spelled := by
    simp only [forms, List.forall_mem_cons] at spelled
    obtain ⟨entries, _⟩ := spelled
    simp only [record]
    split
    · cases entries rfl
      simp [Json.readMapSpelled, Except.map, filled]
    · simp_all [filled, eq_comm]
  finish {seen} complete := by
    simp only [forms, List.forall_mem_cons] at complete
    obtain ⟨entries, _⟩ := complete
    simp [record, filled, Classical.not_not.mp entries, required]

theorem readSpelled {namespaces : Namespaces} {json : Json} (spelled : Spelled namespaces json) :
    record.read json = .ok namespaces :=
  (takes namespaces).reads spelled

theorem spelledToJson (namespaces : Namespaces) : Spelled namespaces (toJson namespaces) :=
  .object (by simp [forms]) (by simp [forms])

end Namespaces

namespace Scope

def forms (scope : Scope) : List FieldForm := [⟨"scope_id", (· = .string scope.id), False⟩]

def Spelled (scope : Scope) : Json → Prop := Spelling scope.forms

def filled (scope : Scope) (seen : List String) : Option String :=
  if "scope_id" ∈ seen then some scope.id else none

theorem takes (scope : Scope) : record.Takes scope.forms scope scope.filled where
  fields := rfl
  distinct := by simp [forms]
  start := by simp [record, filled]
  step {seen key json} spelled := by
    simp only [forms, List.forall_mem_cons] at spelled
    obtain ⟨id, _⟩ := spelled
    simp only [record]
    split
    · cases id rfl
      simp [readText, Except.map, filled]
    · simp_all [filled, eq_comm]
  finish {seen} complete := by
    simp only [forms, List.forall_mem_cons] at complete
    obtain ⟨id, _⟩ := complete
    simp [record, filled, Classical.not_not.mp id, required, Except.map]

theorem readSpelled {scope : Scope} {json : Json} (spelled : scope.Spelled json) :
    record.read json = .ok scope :=
  scope.takes.reads spelled

theorem spelledToJson (scope : Scope) : scope.Spelled scope.toJson :=
  .object (by simp [forms]) (by simp [forms])

end Scope

namespace Action

/-- The reader of actions as that of a record, with the field of the children among the others. -/
def Slots.take (slots : Slots) (key : String) (value : Json) : Except ReadError Slots :=
  if key = "children" then (childrenOfJson value).map fun read => { slots with children := read }
  else slots.step key value

def record : Json.Record Slots Action where
  name := recordName
  fields := fields
  start := {}
  step := Slots.take
  finish := Slots.finish

theorem ofEntriesEq (slots : Slots) (entries : List (String × Json)) :
    ofEntries slots entries = entries.foldlM (fun slots entry => slots.take entry.1 entry.2) slots := by
  induction entries generalizing slots with
  | nil => rw [ofEntries]; rfl
  | cons entry rest ih =>
    simp only [ofEntries, List.foldlM_cons, Slots.take, ih]
    split <;> rfl

theorem ofItemsEq (slots : Slots) (fields : List (String × Bool)) (items : List Json) :
    ofItems slots fields items =
      (fields.zip items).foldlM (fun slots field => slots.take field.1.1 field.2) slots := by
  induction items generalizing slots fields with
  | nil => rw [ofItems]; cases fields <;> rfl
  | cons item rest ih =>
    cases fields with
    | nil => rw [ofItems]; rfl
    | cons field fields =>
      simp only [ofItems, List.zip_cons_cons, List.foldlM_cons, Slots.take, ih]
      split <;> rfl

theorem ofJsonEq (json : Json) : ofJson json = record.read json := by
  cases json with
  | object entries => rw [ofJson, ofEntriesEq]; rfl
  | array items => rw [ofJson, ofItemsEq]; rfl
  | _ => rfl

theorem childrenOfJsonEq (json : Json) : childrenOfJson json = readList ofJson json := by
  have all (items : List Json) : listOfJson items = items.mapM ofJson := by
    induction items with
    | nil => rw [listOfJson]; rfl
    | cons item rest ih =>
      rw [listOfJson, List.mapM_cons, ih]
  cases json with
  | array items => rw [childrenOfJson, all]; rfl
  | _ => rfl

def filled (action : Action) (seen : List String) : Slots where
  name? := if "name" ∈ seen then some action.name else none
  staticId? := if "id" ∈ seen then some action.staticId else none
  attributes := if "attributes" ∈ seen then action.attributes else []
  namespaces := if "namespaces" ∈ seen then action.namespaces else .empty
  scope := if "scope" ∈ seen then action.scope else .topLevel
  location? := if "location" ∈ seen then action.location? else none
  children := if "children" ∈ seen then action.children else []

/-- The fields of an action, by the ways to write its children. -/
def forms (action : Action) (nested : Json → Prop) : List FieldForm :=
  [⟨"name", action.name.Spelled, False⟩, ⟨"id", (· = .string action.staticId), False⟩,
   ⟨"attributes", ListSpelled Attribute.Spelled action.attributes, action.attributes = []⟩,
   ⟨"namespaces", Namespaces.Spelled action.namespaces, action.namespaces = .empty⟩,
   ⟨"scope", action.scope.Spelled, action.scope = .topLevel⟩,
   ⟨"location", OptionSpelled Location.Spelled action.location?, action.location? = none⟩,
   ⟨"children", nested, action.children = []⟩]

theorem takes (action : Action) {nested : Json → Prop}
    (reads : ∀ json, nested json → childrenOfJson json = .ok action.children) :
    record.Takes (action.forms nested) action action.filled where
  fields := rfl
  distinct := by simp [forms]
  start := by simp [record, filled]
  step {seen key json} spelled := by
    simp only [forms, List.forall_mem_cons] at spelled
    obtain ⟨name, staticId, attributes, namespaces, scope, location, children, _⟩ := spelled
    simp only [record, Slots.take, Slots.step]
    split
    · next same =>
      subst same
      simp [reads json (children rfl), Except.map, filled]
    split
    · simp [Name.readSpelled (name rfl), Except.map, filled]
    · cases staticId rfl
      simp [readText, Except.map, filled]
    · have read := Json.readListSpelled (attributes rfl) fun _ _ _ => Attribute.readSpelled
      simp [read, Except.map, filled]
    · simp [Namespaces.readSpelled (namespaces rfl), Except.map, filled]
    · simp [Scope.readSpelled (scope rfl), Except.map, filled]
    · have read := Json.readOptionSpelled
        (fun _ _ spelled => ⟨Spelling.notNull spelled, Location.readSpelled spelled⟩) (location rfl)
      simp [read, Except.map, filled]
    · simp_all [filled, eq_comm]
  finish {seen} complete := by
    simp only [forms, List.forall_mem_cons] at complete
    obtain ⟨name, staticId, attributes, namespaces, scope, location, children, _⟩ := complete
    simp [record, Slots.finish, filled, seenOr attributes, seenOr namespaces, seenOr scope,
      seenOr location, seenOr children, Classical.not_not.mp name, Classical.not_not.mp staticId,
      required, bind, Except.bind, pure, Except.pure]
    cases action
    rfl

mutual

/-- The children are spelled as an array, and each of them in a way of its own. -/
def Spelled : Action → Json → Prop
  | ⟨name, staticId, attributes, namespaces, scope, location?, children⟩ =>
      Spelling (forms ⟨name, staticId, attributes, namespaces, scope, location?, children⟩
        fun json => ∃ items, json = .array items ∧ AllSpelled children items)

def AllSpelled : List Action → List Json → Prop
  | [], items => items = []
  | action :: rest, items =>
      ∃ item others, items = item :: others ∧ action.Spelled item ∧ AllSpelled rest others

end

theorem allSpelledIff {actions : List Action} {items : List Json} :
    AllSpelled actions items ↔ List.Forall₂ Spelled actions items := by
  induction actions generalizing items with
  | nil => simp [AllSpelled]
  | cons action rest ih =>
    rw [AllSpelled, List.forall₂_cons_left_iff]
    constructor
    · rintro ⟨item, others, rfl, first, all⟩
      exact ⟨item, others, first, ih.mp all, rfl⟩
    · rintro ⟨item, others, first, all, rfl⟩
      exact ⟨item, others, rfl, first, ih.mpr all⟩

theorem spelledIff {action : Action} {json : Json} :
    action.Spelled json ↔ Spelling (action.forms (ListSpelled Spelled action.children)) json := by
  have same : ListSpelled Spelled action.children =
      fun json => ∃ items, json = .array items ∧ AllSpelled action.children items := by
    simp only [allSpelledIff]
    rfl
  rw [same]
  cases action
  rfl

mutual

theorem readSpelled : (action : Action) → ∀ json, action.Spelled json → ofJson json = .ok action
  | ⟨name, staticId, attributes, namespaces, scope, location?, children⟩, json, spelled => by
    rw [ofJsonEq]
    refine (takes _ fun json nested => ?_).reads (spelledIff.mp spelled)
    rw [childrenOfJsonEq]
    exact Json.readListSpelled nested (readAllSpelled children)

theorem readAllSpelled : (actions : List Action) →
    ∀ action ∈ actions, ∀ json, action.Spelled json → ofJson json = .ok action
  | [] => List.forall_mem_nil _
  | action :: rest => List.forall_mem_cons.mpr ⟨readSpelled action, readAllSpelled rest⟩

end

mutual

theorem spelledToJson : (action : Action) → action.Spelled action.toJson
  | ⟨name, staticId, attributes, namespaces, scope, location?, children⟩ => by
    have nested := allSpelledIff.mp (allSpelledToJson children)
    have attributesSpelled : ListSpelled Attribute.Spelled attributes
        (.array (attributes.map Attribute.toJson)) :=
      ⟨_, rfl, List.forall₂_map_right_iff.mpr (List.forall₂_same.mpr fun held _ => held.spelledToJson)⟩
    have locationSpelled : OptionSpelled Location.Spelled location?
        (.ofOption Location.toJson location?) := by
      cases location? with
      | none => rfl
      | some location => exact location.spelledToJson
    have childrenSpelled : ListSpelled Spelled children (.array (listToJson children)) :=
      ⟨_, rfl, nested⟩
    refine spelledIff.mpr (.object ?_ ?_)
    · simp [forms, attributesSpelled, locationSpelled, childrenSpelled, name.spelledToJson,
        Namespaces.spelledToJson, scope.spelledToJson]
    · simp [forms]

theorem allSpelledToJson : (actions : List Action) → AllSpelled actions (listToJson actions)
  | [] => rfl
  | action :: rest => ⟨_, _, rfl, spelledToJson action, allSpelledToJson rest⟩

end

/-- An action is handed over whole, as it is written and in every other spelling. -/
theorem handedOver (action : Action) :
    action.Spelled action.toJson ∧ ofJson action.toJson = .ok action ∧
      ∀ json, action.Spelled json → ofJson json = .ok action :=
  ⟨action.spelledToJson, readSpelled action _ action.spelledToJson, readSpelled action⟩

def nestedLeaf : Action :=
  { bare ⟨some "f", "setvalue", some "forms"⟩ "inner" with location? := some ⟨none, 3, 5⟩ }

def nestedRoot : Action :=
  { bare (.unqualified "action") "outer" with
    attributes := [⟨.unqualified "iterate", "all"⟩], children := [nestedLeaf] }

def leafObject : Json := .object
  [("id", .string "inner"), ("location", .array [.null, .integer 3, .integer 5]),
   ("name", .object [("local", .string "setvalue"), ("ns_uri", .string "forms"),
     ("prefix", .string "f")]), ("note", .bool true)]

/-- All seven fields of the outer action in their order, over an object with only what it needs
and one key more. -/
def rootArray : Json := .array
  [.object [("local", .string "action")], .string "outer",
   .array [.array [.array [.null, .string "iterate", .null], .string "all"]],
   .array [.object []], .object [("scope_id", .string "")], .null, .array [leafObject]]

theorem handedOverMixed : nestedRoot.Spelled rootArray ∧ ofJson rootArray = .ok nestedRoot := by
  have name : Name.Spelled ⟨some "f", "setvalue", some "forms"⟩ (.object [("local",
      .string "setvalue"), ("ns_uri", .string "forms"), ("prefix", .string "f")]) :=
    .object (by simp [Name.forms, Json.ofOption]) (by simp [Name.forms])
  have location : Location.Spelled ⟨none, 3, 5⟩ (.array [.null, .integer 3, .integer 5]) :=
    .array (by simp [Location.forms, Json.ofOption])
  have leaf : nestedLeaf.Spelled leafObject := by
    refine spelledIff.mpr (.object ?_ ?_)
    · simpa [forms, nestedLeaf, bare, OptionSpelled] using ⟨location, name⟩
    · simp [forms, nestedLeaf, bare]
  have root : nestedRoot.Spelled rootArray := by
    have outer : Name.Spelled (.unqualified "action") (.object [("local", .string "action")]) :=
      .object (by simp [Name.forms, Name.unqualified]) (by simp [Name.forms, Name.unqualified])
    have iterate : Name.Spelled (.unqualified "iterate") (.array [.null, .string "iterate", .null]) :=
      .array (by simp [Name.forms, Name.unqualified, Json.ofOption])
    have held : Attribute.Spelled ⟨.unqualified "iterate", "all"⟩
        (.array [.array [.null, .string "iterate", .null], .string "all"]) :=
      .array (by simpa [Attribute.forms] using iterate)
    have namespaces : Namespaces.Spelled .empty (.array [.object []]) :=
      .array (by simp [Namespaces.forms, Json.ofMap, StringMap.empty])
    have scope : Scope.Spelled .topLevel (.object [("scope_id", .string "")]) :=
      .object (by simp [Scope.forms, Scope.topLevel]) (by simp [Scope.forms])
    refine spelledIff.mpr (.array ?_)
    simpa [forms, nestedRoot, bare, OptionSpelled, ListSpelled] using
      ⟨outer, held, namespaces, scope, leaf⟩
  exact ⟨root, (handedOver nestedRoot).2.2 rootArray root⟩

end Action
end ActionTree

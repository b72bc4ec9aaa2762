import ActionTree.Action
import ActionTree.Json.Record

/-! The JSON forms of names, positions, scopes and actions. Writing gives every field,
absent ones as null or empty; reading accepts the object and the array notation and
fills in what may be left out. -/
namespace ActionTree
open Json (Record ReadError required readText readWord readOption readList readMap)

structure NameSlots where
  qualifier? : Option String := none
  localPart? : Option String := none
  uri? : Option String := none

def Name.record : Record NameSlots Name where
  name := "QName"
  fields := [("prefix", true), ("local", false), ("ns_uri", true)]
  start := {}
  step slots key value := match key with
    | "prefix" => (readOption readText value).map fun read => { slots with qualifier? := read }
    | "local" => (readText value).map fun read => { slots with localPart? := some read }
    | "ns_uri" => (readOption readText value).map fun read => { slots with uri? := read }
    | _ => .ok slots
  finish slots := (required "local" slots.localPart?).map fun localPart =>
    ⟨slots.qualifier?, localPart, slots.uri?⟩

def Name.toJson (name : Name) : Json :=
  .object [("local", .string name.localPart), ("ns_uri", .ofOption .string name.uri?),
    ("prefix", .ofOption .string name.qualifier?)]

structure LocationSlots where
  systemId? : Option String := none
  line? : Option UInt32 := none
  column? : Option UInt32 := none

def Location.record : Record LocationSlots Location where
  name := "LocationData"
  fields := [("system_id", false), ("line", false), ("column", false)]
  start := {}
  step slots key value := match key with
    | "system_id" => (readOption readText value).map fun read => { slots with systemId? := read }
    | "line" => (readWord value).map fun read => { slots with line? := some read }
    | "column" => (readWord value).map fun read => { slots with column? := some read }
    | _ => .ok slots
  finish slots := do
    let line ← required "line" slots.line?
    let column ← required "column" slots.column?
    return ⟨slots.systemId?, line, column⟩

def Location.toJson (location : Location) : Json :=
  .object [("column", .integer location.column.toNat), ("line", .integer location.line.toNat),
    ("system_id", .ofOption .string location.systemId?)]

structure AttributeSlots where
  name? : Option Name := none
  value? : Option String := none

def Attribute.record : Record AttributeSlots Attribute where
  name := "Attribute"
  fields := [("name", false), ("value", false)]
  start := {}
  step slots key value := match key with
    | "name" => (Name.record.read value).map fun read => { slots with name? := some read }
    | "value" => (readText value).map fun read => { slots with value? := some read }
    | _ => .ok slots
  finish slots := do
    let name ← required "name" slots.name?
    let value ← required "value" slots.value?
    return ⟨name, value⟩

def Attribute.toJson (held : Attribute) : Json :=
  .object [("name", held.name.toJson), ("value", .string held.value)]

def Namespaces.record : Record (Option Namespaces) Namespaces where
  name := "NamespaceMapping"
  fields := [("by_prefix", false)]
  start := none
  step slot key value := match key with
    | "by_prefix" => (readMap readText value).map some
    | _ => .ok slot
  finish := required "by_prefix"

def Namespaces.toJson (namespaces : Namespaces) : Json :=
  .object [("by_prefix", .ofMap .string namespaces)]

def Scope.record : Record (Option String) Scope where
  name := "Scope"
  fields := [("scope_id", false)]
  start := none
  step slot key value := match key with
    | "scope_id" => (readText value).map some
    | _ => .ok slot
  finish slot := (required "scope_id" slot).map Scope.mk

def Scope.toJson (scope : Scope) : Json := .object [("scope_id", .string scope.id)]

namespace Action

structure Slots where
  name? : Option Name := none
  staticId? : Option String := none
  attributes : List Attribute := []
  namespaces : Namespaces := .empty
  scope : Scope := .topLevel
  location? : Option Location := none
  children : List Action := []

def recordName : String := "ActionNode"

def fields : List (String × Bool) :=
  [("name", false), ("id", false), ("attributes", true), ("namespaces", true), ("scope", true),
   ("location", true), ("children", true)]

def Slots.step (slots : Slots) (key : String) (value : Json) : Except ReadError Slots :=
  match key with
  | "name" => (Name.record.read value).map fun read => { slots with name? := some read }
  | "id" => (readText value).map fun read => { slots with staticId? := some read }
  | "attributes" =>
      (readList Attribute.record.read value).map fun read => { slots with attributes := read }
  | "namespaces" => (Namespaces.record.read value).map fun read => { slots with namespaces := read }
  | "scope" => (Scope.record.read value).map fun read => { slots with scope := read }
  | "location" =>
      (readOption Location.record.read value).map fun read => { slots with location? := read }
  | _ => .ok slots

def Slots.finish (slots : Slots) : Except ReadError Action := do
  let name ← required "name" slots.name?
  let staticId ← required "id" slots.staticId?
  return { name, staticId, attributes := slots.attributes, namespaces := slots.namespaces,
           scope := slots.scope, location? := slots.location?, children := slots.children }

mutual

def ofJson : Json → Except ReadError Action
  | .object entries => do
      let slots ← ofEntries {} entries
      slots.finish
  | .array items => do
      let slots ← ofItems {} fields items
      Record.checkLength recordName fields items.length
      slots.finish
  | other => .error (.wrongType other (.record recordName))

def ofEntries (slots : Slots) : List (String × Json) → Except ReadError Slots
  | [] => .ok slots
  | (key, value) :: rest => do
      let slots ←
        if key = "children" then (childrenOfJson value).map fun read => { slots with children := read }
        else slots.step key value
      ofEntries slots rest

def ofItems (slots : Slots) (fields : List (String × Bool)) : List Json → Except ReadError Slots
  | [] => .ok slots
  | value :: rest => match fields with
      | [] => .ok slots
      | (key, _) :: fields => do
          let slots ←
            if key = "children" then
              (childrenOfJson value).map fun read => { slots with children := read }
            else slots.step key value
          ofItems slots fields rest

def childrenOfJson : Json → Except ReadError (List Action)
  | .array items => listOfJson items
  | other => .error (.wrongType other .sequence)

def listOfJson : List Json → Except ReadError (List Action)
  | [] => .ok []
  | item :: rest => do
      let action ← ofJson item
      let others ← listOfJson rest
      return action :: others

end

mutual

def toJson : Action → Json
  | ⟨name, staticId, attributes, namespaces, scope, location?, children⟩ =>
      .object [("attributes", .array (attributes.map Attribute.toJson)),
        ("children", .array (listToJson children)), ("id", .string staticId),
        ("location", .ofOption Location.toJson location?), ("name", name.toJson),
        ("namespaces", Namespaces.toJson namespaces), ("scope", scope.toJson)]

def listToJson : List Action → List Json
  | [] => []
  | action :: rest => action.toJson :: listToJson rest

end

end Action
end ActionTree

import ActionTree.Json
import ActionTree.Text.Quoted

/-! Reading records from JSON. A record is an object, whose keys are visited in their
order, or an array of its fields in declared order. The first bad value is the
error; only then do missing and surplus fields count. -/
namespace ActionTree.Json

inductive Expected where
  | text
  | word
  | sequence
  | map
  | record (name : String)
  deriving DecidableEq, Repr

def Expected.title : Expected → String
  | text => "a string"
  | word => "u32"
  | sequence => "a sequence"
  | map => "a map"
  | record name => s!"struct {name}"

inductive ReadError where
  | wrongType (found : Json) (expected : Expected)
  | outOfRange (value : Int)
  | missingField (field : String)
  /-- An array ended before the required field at the position `length`. -/
  | tooShort (length : Nat) (record : String) (fields : Nat)
  | tooLong (length : Nat)
  deriving Repr

def found : Json → String
  | null => "null"
  | bool value => s!"boolean `{value}`"
  | integer value => s!"integer `{value}`"
  | fraction negative size =>
      let sign := if negative then "-" else ""
      s!"floating point `{sign}{size.text}`"
  | string value => s!"string {Text.quoted value}"
  | array _ => "sequence"
  | object _ => "map"

def ReadError.message : ReadError → String
  | wrongType value expected => s!"invalid type: {value.found}, expected {expected.title}"
  | outOfRange value => s!"invalid value: integer `{value}`, expected u32"
  | missingField field => s!"missing field `{field}`"
  | tooShort length record fields =>
      let elements := if fields = 1 then "1 element" else s!"{fields} elements"
      s!"invalid length {length}, expected struct {record} with {elements}"
  | tooLong length => s!"invalid length {length}, expected fewer elements in array"

def readText : Json → Except ReadError String
  | string value => .ok value
  | other => .error (.wrongType other .text)

def readWord : Json → Except ReadError UInt32
  | integer value =>
      if 0 ≤ value ∧ value < Nat.pow 2 32 then .ok (.ofNat value.toNat) else .error (.outOfRange value)
  | other => .error (.wrongType other .word)

def readOption {α : Type} (read : Json → Except ReadError α) : Json → Except ReadError (Option α)
  | null => .ok none
  | value => (read value).map some

def readList {α : Type} (read : Json → Except ReadError α) : Json → Except ReadError (List α)
  | array items => items.mapM read
  | other => .error (.wrongType other .sequence)

def readMap {α : Type} (read : Json → Except ReadError α) : Json → Except ReadError (StringMap α)
  | object entries => do
      let values ← entries.mapM fun entry => (read entry.2).map (entry.1, ·)
      return .ofList values
  | other => .error (.wrongType other .map)

/-- How a record is read: `step` puts one field into the slots and ignores a key it
does not know; `finish` fails on the first required slot that is still open. -/
structure Record (Slots α : Type) where
  name : String
  /-- The fields in declared order, each with whether an array may end before it. -/
  fields : List (String × Bool)
  start : Slots
  step : Slots → String → Json → Except ReadError Slots
  finish : Slots → Except ReadError α

namespace Record

/-- The first field that an array of `length` elements lacks. -/
def shortAt? (fields : List (String × Bool)) (length : Nat) : Option Nat :=
  (List.range fields.length).find? fun position =>
    length ≤ position && !((fields[position]?.map Prod.snd).getD true)

def checkLength (name : String) (fields : List (String × Bool)) (length : Nat) :
    Except ReadError Unit :=
  match shortAt? fields length with
  | some position => .error (.tooShort position name fields.length)
  | none => if fields.length < length then .error (.tooLong length) else .ok ()

def read {Slots α : Type} (record : Record Slots α) : Json → Except ReadError α
  | object entries => do
      let slots ← entries.foldlM (fun slots entry => record.step slots entry.1 entry.2) record.start
      record.finish slots
  | array items => do
      let slots ← (record.fields.zip items).foldlM
        (fun slots field => record.step slots field.1.1 field.2) record.start
      checkLength record.name record.fields items.length
      record.finish slots
  | other => .error (.wrongType other (.record record.name))

end Record

def required {α : Type} (field : String) : Option α → Except ReadError α
  | none => .error (.missingField field)
  | some value => .ok value

end ActionTree.Json

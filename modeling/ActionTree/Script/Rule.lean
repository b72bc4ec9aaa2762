import ActionTree.Script.Item

/-! Rules that give the result of an expression from the request, from the lists of the
scripted document, or from how often the expression was looked up. -/
namespace ActionTree.Script

inductive Rule where
  | constant (items : List Item)
  | contextItem
  | sequence
  | position
  | last
  /-- How often the expression was looked up, this time included. -/
  | count
  | inScope (name : String)
  | namespaceUri (qualifier : String)
  | sourceId
  | modelId
  | location
  | list (name : String)
  | first (name : String)
  | nonempty (name : String)
  | error (message : String)
  /-- An error that does not tell where. -/
  | bareError (message : String)
  | causedError (message : String)
  /-- A rule for each time, the last of which stays. -/
  | nth (rules : List Rule)
  /-- A rule for each context item, by its text. -/
  | byItem (rules : List (String × Rule))
  deriving Inhabited

/-- Lists of items by name, which handlers change. -/
abbrev Document := StringMap (List Item)

namespace Document

def list (document : Document) (name : String) : List Item := (document.get? name).getD []

end Document

namespace Rule

/- Scripts tell of the source of an error by its text alone. -/
instance : Coe String Fault := ⟨.alone⟩

instance : Coe Fault String := ⟨Fault.text⟩

def cause : String := "root cause"

def itemKey (request : Request Item) : String :=
  match request.contextItem? with
  | none => "none"
  | some item => item.shown

def textItem (text? : Option String) : List Item := (text?.map Item.text).toList

mutual

def apply (document : Document) (count : Nat) (request : Request Item) :
    Rule → Except EvalError (List Item)
  | constant items => .ok items
  | contextItem => .ok request.contextItem?.toList
  | sequence => .ok request.focus.items
  | position => .ok [.integer request.focus.position]
  | last => .ok [.integer request.focus.items.length]
  | Rule.count => .ok [.integer count]
  | inScope name => .ok ((request.variables.get? name).getD [])
  | namespaceUri qualifier => .ok (textItem (request.namespaces.get? qualifier))
  | sourceId => .ok [.text request.sourceId]
  | modelId => .ok (textItem request.modelId?)
  | location => .ok (textItem (request.location?.map Location.text))
  | list name => .ok (document.list name)
  | first name => .ok (document.list name).head?.toList
  | nonempty name => .ok [.truth !(document.list name).isEmpty]
  | error message => .error (request.error message)
  | bareError message => .error ⟨request.expression, message, none, none⟩
  | causedError message => .error { request.error message with cause? := some cause }
  | nth rules => applyNth document count request count rules
  | byItem rules => applyKeyed document count request (itemKey request) rules

/-- Applies the rule at a place counted from one, or the last one. -/
def applyNth (document : Document) (count : Nat) (request : Request Item) (place : Nat) :
    List Rule → Except EvalError (List Item)
  | [] => .ok []
  | rule :: rest =>
      if place ≤ 1 ∨ rest.isEmpty then rule.apply document count request
      else applyNth document count request (place - 1) rest

def applyKeyed (document : Document) (count : Nat) (request : Request Item) (key : String) :
    List (String × Rule) → Except EvalError (List Item)
  | [] => .ok []
  | (name, rule) :: rest =>
      if name = key then rule.apply document count request
      else applyKeyed document count request key rest

end

end Rule
end ActionTree.Script

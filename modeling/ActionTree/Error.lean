import ActionTree.Action
import ActionTree.RepeatIndex

/-! What can go wrong in a run. Each action a failure passes through adds one level
that holds its name, its position and the place its own loops had reached. -/
namespace ActionTree

/-- An error from outside, of which its text and the error that it blames can be known. -/
inductive Fault where
  | alone (text : String)
  | blaming (text : String) (source : Fault)
  deriving DecidableEq, Repr

namespace Fault

def text : Fault → String
  | alone text => text
  | blaming text _ => text

def source? : Fault → Option Fault
  | alone _ => none
  | blaming _ source => some source

/-- Its text and those of all errors that it blames, one after the other. -/
def texts : Fault → List String
  | alone text => [text]
  | blaming text source => text :: source.texts

end Fault

structure EvalError where
  expression : String
  message : String
  location? : Option Location
  cause? : Option Fault
  deriving DecidableEq, Repr

def EvalError.text (error : EvalError) : String :=
  s!"error evaluating `{error.expression}`: {error.message}" ++
    match error.location? with
    | none => ""
    | some location => s!" ({location.text})"

inductive BindingError where
  | evaluation (error : EvalError)
  | unknownModel (id : String)
  | unknownBind (id : String)
  | iterationOutOfRange (index length : Nat)
  deriving DecidableEq, Repr

namespace BindingError

def text : BindingError → String
  | evaluation error => error.text
  | unknownModel id => s!"model `{id}` not found"
  | unknownBind id => s!"bind `{id}` not found"
  | iterationOutOfRange index length =>
      s!"iteration {index} out of range for a sequence of {length} items"

def cause? : BindingError → Option Fault
  | evaluation error => error.cause?
  | _ => none

end BindingError

/-- Where the loops of one action stood: the element of its iteration and the pass
of its `while` loop, both counted from one. -/
structure LoopPosition where
  element? : Option Nat
  pass? : Option Nat
  deriving DecidableEq, Repr

def LoopPosition.outside : LoopPosition := ⟨none, none⟩

inductive ActionError where
  | evaluation (error : EvalError)
  | binding (error : BindingError)
  | repeatIndex (error : RepeatIndex.Invalid)
  | unknownAction (name : Name)
  | notBoolean (guard : Guard) (expression : String)
  | failed (message : String) (cause? : Option Fault)
  | inAction (name : String) (location? : Option Location) (position : LoopPosition)
      (error : ActionError)
  deriving DecidableEq, Repr

namespace ActionError

def heading (name : String) (location? : Option Location) (position : LoopPosition) : String :=
  s!"running action `{name}`" ++
    (match location? with
      | none => ""
      | some location => s!" at {location.text}") ++
    (match position.element? with
      | none => ""
      | some element => s!" (iteration {element})") ++
    (match position.pass? with
      | none => ""
      | some pass => s!" (while pass {pass})") ++ ": "

def text : ActionError → String
  | evaluation error => error.text
  | binding error => error.text
  | repeatIndex error => error.message
  | unknownAction name => s!"no action registered for `{name.text}`"
  | notBoolean guard expression =>
      s!"`{guard.text}` condition `{expression}` did not evaluate to a boolean"
  | failed message _ => s!"action failed: {message}"
  | inAction name location? position error => heading name location? position ++ error.text

def trace : ActionError → List String
  | inAction name _ _ error => name :: error.trace
  | _ => []

def rootCause : ActionError → ActionError
  | inAction _ _ _ error => error.rootCause
  | error => error

/-- Texts of the errors below this one, down to the cause that an evaluator or a
handler gave and on to what that blames. -/
def causes : ActionError → List String
  | evaluation error => error.cause?.elim [] Fault.texts
  | binding error => error.cause?.elim [] Fault.texts
  | failed _ cause? => cause?.elim [] Fault.texts
  | inAction _ _ _ error => error.text :: error.causes
  | _ => []

def within (action : Action) (position : LoopPosition) (error : ActionError) : ActionError :=
  inAction action.name.text action.location? position error

end ActionError
end ActionTree

import ActionTree.Binding.Frame
import ActionTree.Binding.Spec
import ActionTree.Host

/-! The journal of a run: every action entered and left, every evaluation, stack
operation, question, look-up and dispatch, and what was logged and noted, in the order
in which it happened. -/
namespace ActionTree

/-- Why an action was not executed although its turn had come. -/
inductive SkipReason where
  | missingContext
  | evaluatedFalse (condition : String)
  deriving DecidableEq, Repr

inductive LogEntry where
  | skipped (action : Name) (guard : Guard) (reason : SkipReason)
  | executing
  | done
  | rootPopIgnored
  deriving DecidableEq, Repr

inductive LogLevel where
  | debug
  | warning
  deriving DecidableEq, Repr

namespace LogEntry

def level : LogEntry → LogLevel
  | rootPopIgnored => .warning
  | _ => .debug

def message : LogEntry → String
  | skipped _ _ _ => "not executing"
  | executing => "executing"
  | done => "done"
  | rootPopIgnored => "attempt to pop the root binding frame ignored"

def details : LogEntry → List (String × String)
  | skipped action guard reason =>
      [("action", action.text), ("condition_type", guard.text)] ++
        match reason with
        | .missingContext => [("reason", "missing context")]
        | .evaluatedFalse condition =>
            [("reason", "condition evaluated to 'false'"), ("condition", condition)]
  | _ => []

end LogEntry

structure Span where
  action : Name
  pass? : Option Nat
  deriving DecidableEq, Repr

inductive Purpose where
  | binding
  | guard
  | template
  /-- On behalf of a handler, with a sequence of its own choice. -/
  | handler
  deriving DecidableEq, Repr

inductive Caller where
  | interpreter
  | handler
  deriving DecidableEq, Repr

/-- Depths are those after the operation. -/
inductive Event (H : Host) where
  | entered (action : Action)
  | left (action : Action) (result : Except ActionError Unit)
  | evaluated (purpose : Purpose) (mode : Mode) (request : Request H.Item)
      (result : Except EvalError (mode.Answer H.Item))
  | pushed (caller : Caller) (spec : Binding.Spec)
      (result : Except BindingError (Binding.Frame H.Item)) (depth : Nat)
  | iterated (caller : Caller) (index : Nat)
      (result : Except BindingError (Binding.Frame H.Item)) (depth : Nat)
  | popped (caller : Caller) (depth : Nat)
  | asked (question : Question H)
  | lookedUp (name : Name) (found : Bool)
  | dispatched (action : Action) (overridden? : Option H.Item) (frame : Binding.Frame H.Item)
  | returned (action : Action) (result : Except ActionError Unit)
  | logged (entry : LogEntry) (spans : List Span)
  | noted (note : H.Note)

end ActionTree

import ActionTree.Error
import ActionTree.Evaluation

/-! What an application brings along: its items and live objects, a state that its
evaluator, its container and its handlers share, and a container that finds objects. -/
namespace ActionTree

structure Host where
  State : Type
  Item : Type
  Object : Type
  Trigger : Type
  Note : Type
  truth? : Item → Option Bool

/-- Questions about the component that holds the running actions. -/
inductive Question (H : Host) where
  | scope (prefixedId : String)
  /-- The object that `targetId` names, seen from an effective id. -/
  | target (sourceId targetId : String) (hint? : Option String)
  | prefixedId (object : H.Object)
  | object (effectiveId : String)
  /-- The effective id of an object at repeat indexes that count relative to an action. -/
  | relativeId (object : H.Object) (actionId indexes : String)

def Question.Answer {H : Host} : Question H → Type
  | scope _ => Option Scope
  | target _ _ _ => Option H.Object
  | prefixedId _ => String
  | object _ => Option H.Object
  | relativeId _ _ _ => Except ActionError String

structure Container (H : Host) where
  component : String
  answer : (question : Question H) → H.State → question.Answer × H.State
  /-- Whether repeat indexes are resolved by asking for a relative id. Without, they are
  absolute. -/
  relative : Bool

/-- What set off a run: the outermost action of a handler and its event. -/
structure Invocation (H : Host) where
  action : Action
  handlerId : String
  trigger : H.Trigger
  observer : H.Object

end ActionTree

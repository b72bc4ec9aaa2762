import ActionTree.Binding.Frame

/-! The stack of binding frames, with the models and binds that new frames may refer
to. The root frame stays below everything that is pushed. -/
namespace ActionTree.Binding

/-- An expression declared under an id and evaluated from the root of its model. -/
structure Bind where
  modelId : String
  ref : String
  deriving DecidableEq, Repr

structure Stack (Item : Type) where
  root : Frame Item
  /-- Frames above the root, the latest first. -/
  pushed : List (Frame Item)
  models : StringMap (List Item)
  binds : StringMap Bind

namespace Stack

def ofRoot {Item : Type} (root : Frame Item) : Stack Item := ⟨root, [], .empty, .empty⟩

def addModel {Item : Type} (stack : Stack Item) (id : String) (items : List Item) : Stack Item :=
  { stack with models := stack.models.insert id items }

def addBind {Item : Type} (stack : Stack Item) (id : String) (bind : Bind) : Stack Item :=
  { stack with binds := stack.binds.insert id bind }

def current {Item : Type} (stack : Stack Item) : Frame Item := stack.pushed.headD stack.root

def frames {Item : Type} (stack : Stack Item) : List (Frame Item) := stack.root :: stack.pushed.reverse

def depth {Item : Type} (stack : Stack Item) : Nat := stack.pushed.length + 1

def push {Item : Type} (stack : Stack Item) (frame : Frame Item) : Stack Item :=
  { stack with pushed := frame :: stack.pushed }

/-- Takes the latest frame away; the root alone stays. -/
def pop {Item : Type} (stack : Stack Item) : Stack Item := { stack with pushed := stack.pushed.tail }

theorem currentPush {Item : Type} (stack : Stack Item) (frame : Frame Item) :
    (stack.push frame).current = frame := rfl

theorem popPush {Item : Type} (stack : Stack Item) (frame : Frame Item) :
    (stack.push frame).pop = stack := rfl

theorem framesPush {Item : Type} (stack : Stack Item) (frame : Frame Item) :
    (stack.push frame).frames = stack.frames ++ [frame] := by
  simp [frames, push]

theorem lengthFrames {Item : Type} (stack : Stack Item) : stack.frames.length = stack.depth := by
  simp [frames, depth]

def modelRoot {Item : Type} (stack : Stack Item) (id : String) : Except BindingError (List Item) :=
  match stack.models.get? id with
  | none => .error (.unknownModel id)
  | some items => .ok items

theorem modelRootOk {Item : Type} {stack : Stack Item} {id : String} {items : List Item} :
    stack.modelRoot id = .ok items ↔ stack.models.get? id = some items := by
  unfold modelRoot
  split <;> simp [*]

theorem modelRootError {Item : Type} {stack : Stack Item} {id : String} {error : BindingError} :
    stack.modelRoot id = .error error ↔ stack.models.get? id = none ∧ error = .unknownModel id := by
  unfold modelRoot
  split <;> simp [*, eq_comm]

def bindRoot {Item : Type} (stack : Stack Item) (id : String) :
    Except BindingError (Bind × List Item) :=
  match stack.binds.get? id with
  | none => .error (.unknownBind id)
  | some bind => (stack.modelRoot bind.modelId).map (bind, ·)

def elementFrame {Item : Type} (stack : Stack Item) (index : Nat) : Except BindingError (Frame Item) :=
  let base := stack.current
  let focus : Focus Item := ⟨base.focus.items, index⟩
  if focus.InRange then
    .ok { base with focus, contextItem? := focus.item?, overridden := false }
  else .error (.iterationOutOfRange index base.focus.items.length)

end Stack
end ActionTree.Binding

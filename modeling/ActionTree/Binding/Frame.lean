import ActionTree.Evaluation

/-! Frames of the binding stack: the sequence an action works on, the item that was in
scope when it was bound, and the names in scope. -/
namespace ActionTree.Binding

structure Frame (Item : Type) where
  focus : Focus Item
  /-- The in-scope item. Under a bound sequence it is the item the sequence was selected
  from, not the bound one. -/
  contextItem? : Option Item
  «variables» : Variables Item
  /-- Whether the frame replaced the context item of the frame below. -/
  overridden : Bool
  modelId? : Option String
  deriving DecidableEq

namespace Frame

def plain {Item : Type} (focus : Focus Item) (contextItem? : Option Item) : Frame Item :=
  { focus, contextItem?, «variables» := .empty, overridden := false, modelId? := none }

/-- The first item in focus is also the context item. -/
def start {Item : Type} (items : List Item) : Frame Item := plain (.start items) items.head?

def empty {Item : Type} : Frame Item := plain .none none

def single? {Item : Type} (frame : Frame Item) : Option Item := frame.focus.item?

def withVariable {Item : Type} (frame : Frame Item) (name : String) (value : List Item) :
    Frame Item :=
  { frame with «variables» := frame.variables.insert name value }

end Frame
end ActionTree.Binding

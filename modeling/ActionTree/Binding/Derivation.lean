import ActionTree.Machine

/-! How a new frame follows from the current one: the model sets the ground, the
context narrows it, and a bind or a selection gives the sequence. An expression is
evaluated only where there is an item to evaluate it on; elsewhere nothing is selected. -/
namespace ActionTree.Binding
open Focus (start)

section
variable {H : Host} (evaluator : Evaluator H.State H.Item)

def select (stack : Stack H.Item) (spec : Spec) (modelId? : Option String) (focus : Focus H.Item)
    (expression : String) : Act H BindingError (List H.Item) :=
  if focus.InRange then
    (Act.evaluate evaluator .binding .items
      { focus, expression, namespaces := spec.namespaces, «variables» := stack.current.variables,
        sourceId := spec.sourceId, modelId?, location? := spec.location? }).mapError .evaluation
  else pure []

def ground (stack : Stack H.Item) (spec : Spec) : Act H BindingError (Focus H.Item × Option String) :=
  match spec.model? with
  | none => pure (stack.current.focus, stack.current.modelId?)
  | some id => do
      let items ← Act.ofExcept (stack.modelRoot id)
      return (start items, some id)

def narrow (stack : Stack H.Item) (spec : Spec) (modelId? : Option String) (focus : Focus H.Item) :
    Act H BindingError (Focus H.Item) :=
  match spec.context? with
  | none => pure focus
  | some expression => do
      let items ← select evaluator stack spec modelId? focus expression
      return start items

def settle (stack : Stack H.Item) (spec : Spec) (modelId? : Option String) (focus : Focus H.Item) :
    Act H BindingError (Focus H.Item) :=
  match spec.bind?, spec.select? with
  | some id, _ => do
      let (bind, root) ← Act.ofExcept (stack.bindRoot id)
      let items ← select evaluator stack spec modelId? ⟨root, 1⟩ bind.ref
      return start items
  | none, some expression => do
      let items ← select evaluator stack spec modelId? focus expression
      return start items
  | none, none => pure focus

def frameFor (stack : Stack H.Item) (spec : Spec) : Act H BindingError (Frame H.Item) := do
  let (base, modelId?) ← ground stack spec
  let context ← narrow evaluator stack spec modelId? base
  let focus ← settle evaluator stack spec modelId? context
  return { focus, contextItem? := context.item?, «variables» := stack.current.variables,
           overridden := spec.context?.isSome, modelId? }

/-- Puts a frame on the stack, or leaves the stack alone when there is none. -/
def install (event : Except BindingError (Frame H.Item) → Nat → Event H)
    (stack : Stack H.Item) (result : Except BindingError (Frame H.Item)) :
    Act H BindingError Unit :=
  match result with
  | .error error => do
      Act.record (event (.error error) stack.depth)
      Act.fail error
  | .ok frame => do
      Act.setStack (stack.push frame)
      Act.record (event (.ok frame) (stack.push frame).depth)

def push (caller : Caller) (spec : Spec) : Act H BindingError Unit := do
  let stack ← Act.stack
  let result ← (frameFor evaluator stack spec).attempt
  install (.pushed caller spec) stack result

end

def pushElement {H : Host} (caller : Caller) (index : Nat) : Act H BindingError Unit := do
  let stack ← Act.stack
  install (.iterated caller index) stack (stack.elementFrame index)

/-- Takes the current frame off the stack. The root frame stays, with a warning. -/
def pop {H : Host} {ε : Type} (caller : Caller) (spans : List Span) : Act H ε Unit := fun machine =>
  let stack := machine.stack.pop
  ⟨.ok (), { machine with stack },
    (if machine.stack.pushed.isEmpty then [.logged .rootPopIgnored spans] else []) ++
      [.popped caller stack.depth]⟩

end ActionTree.Binding

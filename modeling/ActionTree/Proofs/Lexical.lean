import ActionTree.Proofs.Quiet

/-! Running an action without a stack. Every step is given the frame it works in; what is done
in a derived frame is given that frame instead, and nothing is ever taken off. -/
namespace ActionTree
open Binding (Stack Frame Spec)

/-- All that a step may know of the frames: the current one, and what was declared. -/
structure Surroundings (Item : Type) where
  frame : Frame Item
  models : StringMap (List Item)
  binds : StringMap Binding.Bind

def Surroundings.stack {Item : Type} (surroundings : Surroundings Item) : Stack Item :=
  ⟨surroundings.frame, [], surroundings.models, surroundings.binds⟩

def Binding.Stack.surroundings {Item : Type} (stack : Stack Item) : Surroundings Item :=
  ⟨stack.current, stack.models, stack.binds⟩

structure Ended (H : Host) (ε α : Type) where
  result : Except ε α
  state : H.State
  events : List (Event H)

def Lexical (H : Host) (ε α : Type) := Surroundings H.Item → H.State → Option (Ended H ε α)

/-- The event as it is without a stack: there are no depths, and no frames taken off. -/
def Event.flat? {H : Host} : Event H → Option (Event H)
  | .popped _ _ => none
  | .pushed caller spec result _ => some (.pushed caller spec result 0)
  | .iterated caller index result _ => some (.iterated caller index result 0)
  | event => some event

def flat {H : Host} (events : List (Event H)) : List (Event H) := events.filterMap Event.flat?

def Outcome.ended {H : Host} {ε α : Type} (outcome : Outcome H ε α) : Ended H ε α :=
  ⟨outcome.result, outcome.machine.state, flat outcome.events⟩

namespace Lexical
variable {H : Host} {ε ε' α β : Type}

def bind (first : Lexical H ε α) (next : α → Lexical H ε β) : Lexical H ε β :=
  fun surroundings state =>
    match first surroundings state with
    | none => none
    | some before => match before.result with
        | .error error => some ⟨.error error, before.state, before.events⟩
        | .ok value => (next value surroundings before.state).map fun rest =>
            { rest with events := before.events ++ rest.events }

def ofAct (act : Act H ε α) : Lexical H ε α := fun surroundings state =>
  some (act ⟨state, surroundings.stack⟩).ended

instance : Monad (Lexical H ε) where
  pure value := ofAct (pure value)
  bind := bind

def surroundings : Lexical H ε (Surroundings H.Item) := fun surroundings state =>
  some ⟨.ok surroundings, state, []⟩

def inside (frame : Frame H.Item) (body : Lexical H ε α) : Lexical H ε α := fun surroundings =>
  body { surroundings with frame }

def outOfFuel : Lexical H ε α := fun _ _ => none

def mapError (change : ε → ε') (body : Lexical H ε α) : Lexical H ε' α := fun surroundings state =>
  (body surroundings state).map fun ended => { ended with result := ended.result.mapError change }

def attempt (body : Lexical H ε α) : Lexical H ε' (Except ε α) := fun surroundings state =>
  (body surroundings state).map fun ended => { ended with result := .ok ended.result }

instance : Steps H (Lexical H) where
  ofAct := ofAct
  outOfFuel := outOfFuel
  mapError := mapError
  attempt := attempt

end Lexical

namespace Interpreter
variable {H : Host}

def derive (interpreter : Interpreter H) (stack : Stack H.Item) :
    Origin → Act H BindingError (Frame H.Item)
  | .spec spec => Binding.frameFor interpreter.evaluator stack spec
  | .element index => Act.ofExcept (stack.elementFrame index)

def frameEvent : Origin → Except BindingError (Frame H.Item) → (depth : Nat) → Event H
  | .spec spec => .pushed .interpreter spec
  | .element index => .iterated .interpreter index

def givenFrame {ε : Type} (origin : Origin) (change : BindingError → ε)
    (result : Except BindingError (Frame H.Item)) (body : Lexical H ε Unit) : Lexical H ε Unit := do
  Steps.record (frameEvent origin result 0)
  match result with
  | .error error => Steps.fail (change error)
  | .ok frame => Lexical.inside frame body

/-- In place of a frame on top of a stack, the body is given the frame. -/
instance : Framable H (Lexical H) where
  within interpreter origin change body := do
    let surroundings ← Lexical.surroundings
    let result ← Lexical.attempt (.ofAct (interpreter.derive surroundings.stack origin))
    givenFrame origin change result body

def runLexically (fuel : Nat) (interpreter : Interpreter H) (action : Action) :
    Lexical H ActionError Unit :=
  runIn fuel interpreter action

end Interpreter
end ActionTree

import ActionTree.Proofs.Telling

/-! Absence of an item. Without a model and without a bind a frame derived from one that has no item
has none either, and nothing is evaluated on the way. -/
namespace ActionTree
open Binding (Stack Frame Spec Derivation Selection Narrowing Settling)
variable {H : Host} {ε ε' α β : Type}

namespace Action

mutual
def height : Action → Nat
  | ⟨_, _, _, _, _, _, children⟩ => heights children + 1
def heights : List Action → Nat
  | [] => 0
  | action :: rest => max action.height (heights rest)
end

theorem heightChild {action child : Action} (member : child ∈ action.children) :
    child.height < action.height := by
  have below (actions : List Action) : ∀ nested ∈ actions, nested.height ≤ heights actions := by
    induction actions with
    | nil => simp
    | cons first rest ih =>
      intro nested member
      rw [heights]
      rcases List.mem_cons.mp member with rfl | later
      · exact Nat.le_max_left ..
      · exact Nat.le_trans (ih nested later) (Nat.le_max_right ..)
  have least := below action.children child member
  cases action
  simp only [height] at *
  omega

mutual
/-- The action and all below it. -/
def subtree : Action → List Action
  | ⟨name, staticId, attributes, namespaces, scope, location?, children⟩ =>
      ⟨name, staticId, attributes, namespaces, scope, location?, children⟩ :: subtrees children
def subtrees : List Action → List Action
  | [] => []
  | action :: rest => action.subtree ++ subtrees rest
end

theorem subtreeEq (action : Action) : action.subtree = action :: subtrees action.children := by
  cases action
  rfl

theorem subtreeChild {action child nested : Action} (member : child ∈ action.children)
    (inside : nested ∈ child.subtree) : nested ∈ action.subtree := by
  have among (actions : List Action) (member : child ∈ actions) : nested ∈ subtrees actions := by
    induction actions with
    | nil => cases member
    | cons first rest ih =>
      rw [subtrees]
      rcases List.mem_cons.mp member with rfl | later
      · exact List.mem_append_left _ inside
      · exact List.mem_append_right _ (ih later)
  rw [subtreeEq]
  exact List.mem_cons_of_mem _ (among action.children member)

def Unbound (action : Action) : Prop := action.model? = none ∧ action.bind? = none

instance (action : Action) : Decidable action.Unbound :=
  inferInstanceAs (Decidable (action.model? = none ∧ action.bind? = none))

/-- Runs its handler only if an item is there, or for each item. -/
def Conditional (action : Action) : Prop :=
  (action.guard? .onlyIf).isSome ∨ (action.guard? .asLongAs).isSome ∨ action.iterate?.isSome

end Action

namespace Binding
variable {stack : Stack H.Item} {spec : Spec}

structure Void (frame : Frame H.Item) : Prop where
  single : frame.single? = none
  context : frame.contextItem? = none

theorem emptyStart {Item : Type} : (Focus.start ([] : List Item)).item? = none := rfl

theorem Selection.void {modelId? : Option String} {focus : Focus H.Item} {expression : String}
    {result : Except BindingError (List H.Item)} {events : List (Event H)}
    (selection : Selection stack spec modelId? focus expression result events)
    (nothing : focus.item? = none) : result = .ok [] ∧ events = [] := by
  cases selection with
  | skipped outside => exact ⟨rfl, rfl⟩
  | evaluated inside answer =>
    have found := (Focus.isSomeItemIff focus).mpr inside
    simp [nothing] at found

theorem Narrowing.void {modelId? : Option String} {base : Focus H.Item}
    {result : Except BindingError (Focus H.Item)} {events : List (Event H)}
    (narrowed : Narrowing stack spec modelId? base result events) (nothing : base.item? = none) :
    ∃ context, result = .ok context ∧ context.item? = none ∧ events = [] := by
  cases narrowed with
  | kept absent => exact ⟨base, rfl, nothing, rfl⟩
  | selected present selection =>
    obtain ⟨rfl, rfl⟩ := selection.void nothing
    exact ⟨.start [], rfl, emptyStart, rfl⟩

theorem Settling.void {modelId? : Option String} {context : Focus H.Item}
    {result : Except BindingError (Focus H.Item)} {events : List (Event H)}
    (settled : Settling stack spec modelId? context result events) (unbound : spec.bind? = none)
    (nothing : context.item? = none) : ∃ focus, result = .ok focus ∧ focus.item? = none ∧
      (spec.select?.isSome → focus.items = []) ∧ events = [] := by
  cases settled with
  | undeclared present unknown => simp [unbound] at present
  | bound present declared selection => simp [unbound] at present
  | selected unbound present selection =>
    obtain ⟨rfl, rfl⟩ := selection.void nothing
    exact ⟨.start [], rfl, emptyStart, fun _ => rfl, rfl⟩
  | kept unbound absent => exact ⟨context, rfl, nothing, by simp [absent], rfl⟩

theorem Derivation.void {result : Except BindingError (Frame H.Item)} {events : List (Event H)}
    (derivation : Derivation stack spec result events) (unmodelled : spec.model? = none)
    (unbound : spec.bind? = none) (nothing : stack.current.single? = none) :
    ∃ frame, result = .ok frame ∧ Void frame ∧ (spec.select?.isSome → frame.focus.items = []) ∧
      events = [] := by
  have ground : stack.groundOf spec = .ok (stack.current.focus, stack.current.modelId?) := by
    simp [Stack.groundOf, unmodelled]
  cases derivation with
  | ungrounded unknown => simp [ground] at unknown
  | unnarrowed grounded narrowed =>
    cases ground.symm.trans grounded
    obtain ⟨_, failed, _⟩ := narrowed.void nothing
    cases failed
  | unsettled grounded narrowed settled =>
    cases ground.symm.trans grounded
    obtain ⟨_, same, absent, rfl⟩ := narrowed.void nothing
    cases same
    obtain ⟨_, failed, _⟩ := settled.void unbound absent
    cases failed
  | derived grounded narrowed settled =>
    cases ground.symm.trans grounded
    obtain ⟨context, same, absent, rfl⟩ := narrowed.void nothing
    cases same
    obtain ⟨focus, same, absent', empty, rfl⟩ := settled.void unbound absent
    cases same
    exact ⟨_, rfl, ⟨absent', absent⟩, empty, rfl⟩

theorem pushVoid (evaluator : Evaluator H.State H.Item) (caller : Caller)
    (unmodelled : spec.model? = none) (unbound : spec.bind? = none)
    (nothing : stack.current.single? = none) (state : H.State) : ∃ state' frame, Void frame ∧
      (spec.select?.isSome → frame.focus.items = []) ∧ push evaluator caller spec ⟨state, stack⟩ =
        ⟨.ok (), ⟨state', stack.push frame⟩,
          [.pushed caller spec (.ok frame) (stack.push frame).depth]⟩ := by
  obtain ⟨state', result, events, derivation, _, same⟩ :=
    pushSound evaluator caller spec (⟨state, stack⟩ : Machine H)
  obtain ⟨frame, rfl, void, empty, rfl⟩ := derivation.void unmodelled unbound nothing
  exact ⟨state', frame, void, empty, same⟩

end Binding

namespace Run
variable {stack : Stack H.Item} {run : Run H ε α} {Q : Except ε α → List (Event H) → Prop}

/-- Comes to an end and gives the stack back, from any state of the host. -/
def Ends (run : Run H ε α) (stack : Stack H.Item) (Q : Except ε α → List (Event H) → Prop) : Prop :=
  ∀ state, ∃ outcome, run ⟨state, stack⟩ = some outcome ∧ outcome.machine.stack = stack ∧
    Q outcome.result outcome.events

theorem endsAct {act : Act H ε α} (ended : ∀ state, (act ⟨state, stack⟩).machine.stack = stack ∧
    Q (act ⟨state, stack⟩).result (act ⟨state, stack⟩).events) : (ofAct act).Ends stack Q :=
  fun state => ⟨_, rfl, ended state⟩

theorem endsMono {P : Except ε α → List (Event H) → Prop} (ends : run.Ends stack P)
    (implies : ∀ result events, P result events → Q result events) : run.Ends stack Q := by
  intro state
  obtain ⟨outcome, ended, same, holds⟩ := ends state
  exact ⟨outcome, ended, same, implies _ _ holds⟩

theorem endsBind {first : Run H ε β} {next : β → Run H ε α} {P : Except ε β → List (Event H) → Prop}
    (head : first.Ends stack P) (fails : ∀ error events, P (.error error) events → Q (.error error) events)
    (goes : ∀ value events, P (.ok value) events →
      (next value).Ends stack fun result rest => Q result (events ++ rest)) :
    (first >>= next).Ends stack Q := by
  intro state
  obtain ⟨before, ran, same, holds⟩ := head state
  cases ended : before.result with
  | error error =>
    rw [ended] at holds
    exact ⟨_, bindEqSome.mpr ⟨before, ran, .inl ⟨error, ended, rfl⟩⟩, same, fails error _ holds⟩
  | ok value =>
    rw [ended] at holds
    obtain ⟨rest, continued, same', holds'⟩ := goes value before.events holds before.machine.state
    have here : before.machine = ⟨before.machine.state, stack⟩ := by rw [← same]
    rw [← here] at continued
    exact ⟨_, bindEqSome.mpr ⟨before, ran, .inr ⟨value, rest, ended, continued, rfl⟩⟩, same', holds'⟩

theorem endsRecord {event : Event H} {next : Unit → Run H ε α}
    (ends : (next ()).Ends stack fun result rest => Q result (event :: rest)) :
    (Steps.record event >>= next).Ends stack Q := by
  have first : (Steps.record event : Run H ε Unit).Ends stack fun result events =>
      result = .ok () ∧ events = [event] := endsAct fun _ => ⟨rfl, rfl, rfl⟩
  refine endsBind first (fun _ _ failed => nomatch failed.1) ?_
  rintro value events ⟨_, rfl⟩
  exact ends

theorem endsFrame {next : Frame H.Item → Run H ε α} (ends : (next stack.current).Ends stack Q) :
    (Steps.frame >>= next).Ends stack Q := by
  intro state
  rw [frameBind]
  exact ends state

theorem endsMapError {change : ε → ε'} {Q : Except ε' α → List (Event H) → Prop}
    (ends : run.Ends stack fun result events => Q (result.mapError change) events) :
    (run.mapError change).Ends stack Q := by
  intro state
  obtain ⟨outcome, ended, same, holds⟩ := ends state
  exact ⟨_, mapErrorEqSome.mpr ⟨outcome, ended, rfl⟩, same, holds⟩

theorem endsAttempt {Q : Except ε' (Except ε α) → List (Event H) → Prop}
    (ends : run.Ends stack fun result events => Q (.ok result) events) :
    (run.attempt : Run H ε' (Except ε α)).Ends stack Q := by
  intro state
  obtain ⟨outcome, ended, same, holds⟩ := ends state
  exact ⟨_, attemptEqSome.mpr ⟨outcome, ended, rfl⟩, same, holds⟩

end Run

namespace Interpreter

theorem underEnds (interpreter : Interpreter H) {stack : Stack H.Item} (spec : Spec)
    (change : BindingError → ε) (unmodelled : spec.model? = none) (unbound : spec.bind? = none)
    (nothing : stack.current.single? = none) {body : Run H ε Unit}
    {Q : Except ε Unit → List (Event H) → Prop}
    (inside : ∀ frame, Binding.Void frame → (spec.select?.isSome → frame.focus.items = []) →
      body.Ends (stack.push frame) fun result events =>
        Q result (.pushed .interpreter spec (.ok frame) (stack.push frame).depth ::
          (events ++ [.popped .interpreter stack.depth]))) :
    (interpreter.under ((Binding.push interpreter.evaluator .interpreter spec).mapError change) body).Ends
      stack Q := by
  intro state
  obtain ⟨state', frame, void, empty, same⟩ :=
    Binding.pushVoid interpreter.evaluator .interpreter unmodelled unbound nothing state
  obtain ⟨inner, ran, kept, holds⟩ := inside frame void empty state'
  rw [underEq]
  unfold Act.mapError
  rw [same]
  have closed : [.popped .interpreter stack.depth] =
      Binding.poppings .interpreter interpreter.spans inner.machine.stack := by
    rw [kept]
    rfl
  rw [closed] at holds
  exact ⟨_, congrArg (Option.map _) ran, congrArg Stack.pop kept, holds⟩

end Interpreter

end ActionTree

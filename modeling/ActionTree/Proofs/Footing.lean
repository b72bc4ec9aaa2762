import ActionTree.Proofs.Asking
import ActionTree.Proofs.Findings
import ActionTree.Proofs.Operations
import ActionTree.Proofs.Position

/-! Every frame over a well-placed root is on one of its items, or has none to be on. Its item in
context is the one that the model and the context of its request came to, whatever was selected
from there. -/
namespace ActionTree

namespace Focus
variable {Item : Type}

/-- On an item, or nowhere in an empty sequence. -/
def Placed (focus : Focus Item) : Prop :=
  (focus.position = 0 ↔ focus.items = []) ∧ focus.position ≤ focus.items.length

theorem placedStart (items : List Item) : (start items).Placed := by
  cases items <;> simp [Placed, start]

theorem InRange.placed {focus : Focus Item} (inside : focus.InRange) : focus.Placed := by
  obtain ⟨first, last⟩ := inside
  have nonempty : focus.items ≠ [] := List.ne_nil_of_length_pos (Nat.lt_of_lt_of_le first last)
  exact ⟨⟨fun nowhere => absurd first (by omega), fun empty => absurd empty nonempty⟩, last⟩

theorem Placed.isSomeItemIff {focus : Focus Item} (placed : focus.Placed) :
    focus.item?.isSome ↔ focus.items ≠ [] := by
  rw [Focus.isSomeItemIff, InRange, Nat.one_le_iff_ne_zero, ne_eq, placed.1]
  exact and_iff_left placed.2

end Focus
namespace Binding
variable {H : Host}

/-- On one of its items if it has any, with the variables of the root and a model that is the root's
or declared. -/
structure Stack.Carries {Item : Type} (stack : Stack Item) (frame : Frame Item) : Prop where
  placed : frame.focus.Placed
  «variables» : frame.variables = stack.root.variables
  model : frame.modelId? = stack.root.modelId? ∨
    ∃ id items, frame.modelId? = some id ∧ stack.models.get? id = some items

def Stack.Sound {Item : Type} (stack : Stack Item) : Prop := ∀ frame ∈ stack.frames, stack.Carries frame

section
variable {stack : Stack H.Item}

theorem soundRoot {Item : Type} {root : Frame Item} (placed : root.focus.Placed)
    (models : StringMap (List Item)) (binds : StringMap Bind) :
    (⟨root, [], models, binds⟩ : Stack Item).Sound :=
  List.forall_mem_singleton.mpr ⟨placed, rfl, .inl rfl⟩

theorem Stack.Sound.current (sound : stack.Sound) : stack.Carries stack.current :=
  sound _ (List.mem_of_getLast? (currentLast stack))

theorem Stack.Sound.push (sound : stack.Sound) {frame : Frame H.Item} (carries : stack.Carries frame) :
    (stack.push frame).Sound := by
  intro other member
  rw [framesPush, List.mem_append, List.mem_singleton] at member
  obtain ⟨placed, inherited, model⟩ : stack.Carries other := member.elim (sound other) (· ▸ carries)
  exact ⟨placed, inherited, model⟩

theorem Stack.Sound.pop (sound : stack.Sound) : stack.pop.Sound := by
  intro frame member
  rw [framesPop] at member
  have before : frame ∈ stack.frames := by
    split at member
    · exact member
    · exact List.dropLast_subset _ member
  obtain ⟨placed, inherited, model⟩ := sound frame before
  exact ⟨placed, inherited, model⟩

theorem Finds.carried {spec : Spec} {findings : Findings H.Item} {frame : Frame H.Item}
    {events : List (Event H)} {base : Focus H.Item} {modelId? : Option String}
    (finds : Finds stack spec findings frame events base modelId?)
    (current : stack.Carries stack.current) : stack.Carries frame := by
  obtain ⟨grounded, root, based, context, bound, selected, rfl⟩ := finds
  have ground : base.Placed := by
    rw [based]
    split
    · exact Focus.placedStart _
    · exact current.placed
  have narrowed : (findings.narrowed spec base).Placed := by
    unfold Findings.narrowed
    split
    · exact Focus.placedStart _
    · exact ground
  have settled : (findings.settled spec base).Placed := by
    unfold Findings.settled
    split
    · exact Focus.placedStart _
    · split
      · exact Focus.placedStart _
      · exact narrowed
  refine ⟨settled, current.variables, ?_⟩
  change modelId? = _ ∨ ∃ id items, modelId? = some id ∧ _
  rw [groundModel grounded, Spec.modelOver]
  cases present : spec.model? with
  | none => exact current.model
  | some id => exact .inr ⟨id, findings.root, rfl, Stack.modelRootOk.mp (root id present)⟩

theorem elementCarried {index : Nat} {frame : Frame H.Item}
    (derived : stack.elementFrame index = .ok frame) (current : stack.Carries stack.current) :
    stack.Carries frame := by
  unfold Stack.elementFrame at derived
  dsimp only at derived
  split at derived
  · next inside =>
    cases derived
    exact ⟨inside.placed, current.variables, current.model⟩
  · cases derived

variable {evaluator : Evaluator H.State H.Item} {caller : Caller} {spans : List Span}

theorem Effect.sound {after : Stack H.Item} {operation : Operation} {result : Except BindingError Unit}
    {events : List (Event H)} (effect : Effect caller spans stack operation result events after)
    (sound : stack.Sound) : after.Sound := by
  cases effect with
  | refused derivation => exact sound
  | pushed derivation =>
    obtain ⟨findings, base, modelId?, finds⟩ := derivation.finds
    exact sound.push (finds.carried sound.current)
  | outOfRange missing => exact sound
  | element derived => exact sound.push (elementCarried derived sound.current)
  | popped => exact sound.pop

end
section
variable (evaluator : Evaluator H.State H.Item) (caller : Caller) (spans : List Span)

theorem operateSound (operations : List Operation) : (operate evaluator caller spans operations).Keeps
    fun before _ after => before.stack.Sound → after.stack.Sound := by
  refine operateKeeps evaluator caller spans ⟨fun _ sound => sound, ?_⟩ ?_ operations
  · exact fun first second sound => second (first sound)
  · exact fun operation machine => (actEffect evaluator caller spans operation machine).sound

/-- The focus that the model and the context of a request give, with the model in effect. -/
def contextStep (stack : Stack H.Item) (spec : Spec) :
    Act H BindingError (Focus H.Item × Option String) := do
  let (base, modelId?) ← ground stack spec
  let context ← narrow evaluator stack spec modelId? base
  return (context, modelId?)

theorem frameForSteps (stack : Stack H.Item) (spec : Spec) : frameFor evaluator stack spec = (do
    let (context, modelId?) ← contextStep evaluator stack spec
    let focus ← settle evaluator stack spec modelId? context
    return stack.frameOver spec modelId? context focus) := by
  simp only [contextStep, bind_assoc, pure_bind]
  rfl

theorem frameForGave {stack : Stack H.Item} {spec : Spec} {machine : Machine H} {frame : Frame H.Item}
    (gave : (frameFor evaluator stack spec machine).result = .ok frame) : ∃ context,
      (contextStep evaluator stack spec machine).result = .ok (context, frame.modelId?) ∧
        frame.contextItem? = context.item? := by
  rw [frameForSteps] at gave
  obtain ⟨⟨context, modelId?⟩, stepped, gave⟩ := Act.bindGave gave
  obtain ⟨focus, _, built⟩ := Act.bindGave gave
  cases built
  exact ⟨context, stepped, rfl⟩

theorem pushGave {spec : Spec} {machine : Machine H}
    (went : (push evaluator caller spec machine).result = .ok ()) :
    ∃ frame, (frameFor evaluator machine.stack spec machine).result = .ok frame ∧
      (push evaluator caller spec machine).machine.stack.current = frame := by
  rw [pushEq] at went ⊢
  cases derived : (frameFor evaluator machine.stack spec machine).result with
  | error error => simp [derived, Except.map] at went
  | ok frame =>
    refine ⟨frame, rfl, ?_⟩
    change (machine.stack.after (frameFor evaluator machine.stack spec machine).result).current = frame
    rw [derived]
    rfl

theorem pushElementGave {index : Nat} {machine : Machine H}
    (went : (pushElement caller index machine).result = .ok ()) : ∃ frame,
      machine.stack.elementFrame index = .ok frame ∧
        (pushElement caller index machine).machine.stack.current = frame := by
  rw [pushElementEq] at went ⊢
  cases derived : machine.stack.elementFrame index with
  | error error => simp [derived, Except.map] at went
  | ok frame => exact ⟨frame, rfl, rfl⟩

structure ContextKept (spec : Spec) (machine : Machine H) (frame : Frame H.Item) : Prop where
  plain : spec.bind? = none → spec.select? = none → frame.contextItem? = frame.single?
  stepped : ∃ context, (contextStep evaluator machine.stack spec machine).result =
    .ok (context, frame.modelId?) ∧ frame.contextItem? = context.item?
  /-- Whatever else could have been bound or selected there. -/
  apart : ∀ bind? select?, let other := push evaluator caller { spec with bind?, select? } machine
    other.result = .ok () → other.machine.stack.current.contextItem? = frame.contextItem?

theorem pushContext {spec : Spec} {machine : Machine H}
    (went : (push evaluator caller spec machine).result = .ok ()) :
    ContextKept evaluator caller spec machine
      (push evaluator caller spec machine).machine.stack.current := by
  obtain ⟨frame, gave, same⟩ := pushGave evaluator caller went
  rw [same]
  obtain ⟨context, stepped, item⟩ := frameForGave evaluator gave
  refine ⟨fun unbound unselected => ?_, ⟨context, stepped, item⟩, ?_⟩
  · have derivation := frameForSound machine.stack spec evaluator machine
    rw [gave] at derivation
    obtain ⟨findings, base, modelId?, finds⟩ := derivation.finds
    simpa [unbound, unselected] using finds.single.symm
  · intro bind? select? other ended
    obtain ⟨frame', gave', same'⟩ := pushGave evaluator caller ended
    obtain ⟨context', stepped', item'⟩ := frameForGave evaluator gave'
    have agreed : (contextStep evaluator machine.stack spec machine).result =
        .ok (context', frame'.modelId?) := stepped'
    rw [stepped] at agreed
    have same : context = context' := congrArg Prod.fst (Except.ok.inj agreed)
    rw [same', item', item, same]

theorem framesFooted {root : Frame H.Item} (placed : root.focus.Placed)
    (models : StringMap (List H.Item)) (binds : StringMap Bind) (state : H.State)
    (operations : List Operation) :
    let reached :=
      (operate evaluator caller spans operations ⟨state, ⟨root, [], models, binds⟩⟩).machine
    (∀ frame ∈ reached.stack.frames, frame.focus.Placed ∧
      (frame.single?.isSome ↔ frame.focus.items ≠ []) ∧ frame.variables = root.variables ∧
      (frame.modelId? = root.modelId? ∨
        ∃ id items, frame.modelId? = some id ∧ models.get? id = some items)) ∧
    (∀ spec, let next := push evaluator caller spec reached
      next.result = .ok () → ContextKept evaluator caller spec reached next.machine.stack.current) ∧
    ∀ index, let next := pushElement caller index reached
      next.result = .ok () →
        next.machine.stack.current.contextItem? = next.machine.stack.current.single? := by
  intro reached
  have sound : reached.stack.Sound := operateSound evaluator caller spans operations
    ⟨state, ⟨root, [], models, binds⟩⟩ (soundRoot placed models binds)
  have tracked := operateTracked evaluator caller spans operations ⟨state, ⟨root, [], models, binds⟩⟩
  have sameRoot : reached.stack.root = root := tracked.root
  have sameModels : reached.stack.models = models := tracked.models
  refine ⟨fun frame member => ?_, fun spec => pushContext evaluator caller, fun index => ?_⟩
  · obtain ⟨placed, inherited, model⟩ := sound frame member
    rw [sameRoot] at inherited model
    rw [sameModels] at model
    exact ⟨placed, placed.isSomeItemIff, inherited, model⟩
  · intro next went
    obtain ⟨frame, derived, same⟩ := pushElementGave caller went
    rw [same]
    exact (Level.elementItems derived).2.symm

end

/-- After an index out of range, the frames are those of the root, of `all` and of its second item. -/
theorem framesFootedOverElements :
    let all : Spec := { Spec.anchored Counting.block "" with select? := some "all" }
    let reached := (operate Counting.evaluator .handler []
      [.push all, .pushElement 3, .pushElement 2] Counting.machine).machine
    Counting.machine.stack.root.focus.Placed ∧
      reached.stack.frames.map Frame.focus = [⟨[7], 1⟩, ⟨[1, 2], 1⟩, ⟨[1, 2], 2⟩] ∧
      (∀ frame ∈ reached.stack.frames, frame.focus.Placed) ∧
      (push Counting.evaluator .handler all reached).result = .ok () ∧
      ContextKept Counting.evaluator .handler all reached
        (push Counting.evaluator .handler all reached).machine.stack.current := by
  intro all reached
  have placed : Counting.machine.stack.root.focus.Placed := Focus.placedStart [(7 : Nat)]
  have footed := framesFooted Counting.evaluator .handler [] placed .empty .empty (0 : Nat)
    [.push all, .pushElement 3, .pushElement 2]
  have went : (push Counting.evaluator .handler all reached).result = .ok () := rfl
  exact ⟨placed, by decide, fun frame member => (footed.1 frame member).1, went, footed.2.1 all went⟩

end Binding
end ActionTree

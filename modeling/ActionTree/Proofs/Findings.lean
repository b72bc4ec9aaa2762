import ActionTree.Proofs.Derivation

/-! What a request found on its way to a frame, as far as its attributes asked for it: a model's
root, and the results of the expressions that narrow and settle the focus. Nothing is found
where there was no item to evaluate on. -/
namespace ActionTree.Binding
open Focus (start)
variable {H : Host}

/-- What the parts of a request came to; those of absent parts do not matter. -/
structure Findings (Item : Type) where
  root : List Item
  context : List Item
  bound : List Item
  selected : List Item

namespace Findings
variable {Item : Type} (findings : Findings Item) (spec : Spec)

def narrowed (base : Focus Item) : Focus Item :=
  if spec.context?.isSome then start findings.context else base

def settled (base : Focus Item) : Focus Item :=
  if spec.bind?.isSome then start findings.bound
  else if spec.select?.isSome then start findings.selected
  else findings.narrowed spec base

end Findings

structure Finds (stack : Stack H.Item) (spec : Spec) (findings : Findings H.Item)
    (frame : Frame H.Item) (events : List (Event H)) (base : Focus H.Item)
    (modelId? : Option String) : Prop where
  grounded : stack.groundOf spec = .ok (base, modelId?)
  root : ∀ id, spec.model? = some id → stack.modelRoot id = .ok findings.root
  based : base = if spec.model?.isSome then start findings.root else stack.current.focus
  context : ∀ expression, spec.context? = some expression → ∃ found,
    Selection stack spec modelId? base expression (.ok findings.context) found ∧ found <+: events
  bound : ∀ id, spec.bind? = some id → ∃ bind items found, stack.bindRoot id = .ok (bind, items) ∧
    Selection stack spec modelId? ⟨items, 1⟩ bind.ref (.ok findings.bound) found ∧ found <:+ events
  selected : spec.bind? = none → ∀ expression, spec.select? = some expression → ∃ found,
    Selection stack spec modelId? (findings.narrowed spec base) expression
      (.ok findings.selected) found ∧ found <:+ events
  derived : frame = stack.frameOver spec modelId? (findings.narrowed spec base)
    (findings.settled spec base)

section
variable {stack : Stack H.Item} {spec : Spec}

theorem mapStartOk {result : Except BindingError (List H.Item)} {focus : Focus H.Item}
    (mapped : result.map start = .ok focus) : ∃ items, result = .ok items ∧ start items = focus := by
  cases result with
  | error error => cases mapped
  | ok items => exact ⟨items, rfl, Except.ok.inj mapped⟩

theorem rootFound {base : Focus H.Item} {modelId? : Option String}
    (grounded : stack.groundOf spec = .ok (base, modelId?)) :
    ∃ root, (∀ id, spec.model? = some id → stack.modelRoot id = .ok root) ∧
      base = if spec.model?.isSome then start root else stack.current.focus := by
  unfold Stack.groundOf at grounded
  cases present : spec.model? with
  | none =>
    rw [present] at grounded
    cases grounded
    exact ⟨[], by simp, rfl⟩
  | some id =>
    rw [present] at grounded
    cases known : stack.modelRoot id with
    | error error => simp [known, Except.map] at grounded
    | ok items =>
      simp only [known, Except.map] at grounded
      cases grounded
      refine ⟨items, ?_, rfl⟩
      rintro id ⟨⟩
      exact known

theorem contextFound {modelId? : Option String} {base context : Focus H.Item} {events : List (Event H)}
    (narrowed : Narrowing stack spec modelId? base (.ok context) events) :
    ∃ items, (∀ expression, spec.context? = some expression →
        Selection stack spec modelId? base expression (.ok items) events) ∧
      context = if spec.context?.isSome then start items else base := by
  generalize ended : Except.ok context = result at narrowed
  cases narrowed with
  | kept absent =>
    cases ended
    exact ⟨[], by simp [absent], by simp [absent]⟩
  | selected present selection =>
    obtain ⟨items, rfl, same⟩ := mapStartOk ended.symm
    refine ⟨items, ?_, by simp [present, same]⟩
    intro expression wanted
    cases present.symm.trans wanted
    exact selection

theorem targetFound {modelId? : Option String} {context focus : Focus H.Item} {events : List (Event H)}
    (settled : Settling stack spec modelId? context (.ok focus) events) :
    ∃ bound selected, (∀ id, spec.bind? = some id → ∃ bind items,
        stack.bindRoot id = .ok (bind, items) ∧
          Selection stack spec modelId? ⟨items, 1⟩ bind.ref (.ok bound) events) ∧
      (spec.bind? = none → ∀ expression, spec.select? = some expression →
        Selection stack spec modelId? context expression (.ok selected) events) ∧
      focus = if spec.bind?.isSome then start bound
        else if spec.select?.isSome then start selected else context := by
  generalize ended : Except.ok focus = result at settled
  cases settled with
  | undeclared present unknown => cases ended
  | bound present declared selection =>
    obtain ⟨items, rfl, same⟩ := mapStartOk ended.symm
    refine ⟨items, [], ?_, by simp [present], by simp [present, same]⟩
    intro id wanted
    cases present.symm.trans wanted
    exact ⟨_, _, declared, selection⟩
  | selected unbound present selection =>
    obtain ⟨items, rfl, same⟩ := mapStartOk ended.symm
    refine ⟨[], items, by simp [unbound], ?_, by simp [unbound, present, same]⟩
    intro _ expression wanted
    cases present.symm.trans wanted
    exact selection
  | kept unbound absent =>
    cases ended
    exact ⟨[], [], by simp [unbound], by simp [absent], by simp [unbound, absent]⟩

theorem Derivation.finds {frame : Frame H.Item} {events : List (Event H)}
    (derivation : Derivation stack spec (.ok frame) events) :
    ∃ findings base modelId?, Finds stack spec findings frame events base modelId? := by
  generalize ended : Except.ok frame = result at derivation
  cases derivation with
  | ungrounded unknown => cases ended
  | unnarrowed grounded narrowed => cases ended
  | unsettled grounded narrowed settled => cases ended
  | @derived base modelId? _ _ narrowing settling grounded narrowed settled =>
    cases ended
    obtain ⟨root, rooted, based⟩ := rootFound grounded
    obtain ⟨context, evaluated, rfl⟩ := contextFound narrowed
    obtain ⟨bound, selected, declared, wanted, rfl⟩ := targetFound settled
    refine ⟨⟨root, context, bound, selected⟩, base, modelId?, grounded, rooted, based, ?_, ?_, ?_, rfl⟩
    · exact fun expression present => ⟨narrowing, evaluated expression present, List.prefix_append ..⟩
    · intro id present
      obtain ⟨bind, items, known, selection⟩ := declared id present
      exact ⟨bind, items, settling, known, selection, List.suffix_append ..⟩
    · exact fun unbound expression present =>
        ⟨settling, wanted unbound expression present, List.suffix_append ..⟩

theorem Finds.contextItem {findings : Findings H.Item} {frame : Frame H.Item} {events : List (Event H)}
    {base : Focus H.Item} {modelId? : Option String}
    (finds : Finds stack spec findings frame events base modelId?) : frame.contextItem? =
      if spec.context?.isSome then findings.context.head?
      else if spec.model?.isSome then findings.root.head? else stack.current.single? := by
  rw [finds.derived]
  change (findings.narrowed spec base).item? = _
  unfold Findings.narrowed
  split
  · exact Focus.itemStart _
  · rw [finds.based]
    split
    · exact Focus.itemStart _
    · rfl

theorem Finds.single {findings : Findings H.Item} {frame : Frame H.Item} {events : List (Event H)}
    {base : Focus H.Item} {modelId? : Option String}
    (finds : Finds stack spec findings frame events base modelId?) : frame.single? =
      if spec.bind?.isSome then findings.bound.head?
      else if spec.select?.isSome then findings.selected.head? else frame.contextItem? := by
  rw [finds.derived]
  change (findings.settled spec base).item? = _
  unfold Findings.settled
  split
  · exact Focus.itemStart _
  · split
    · exact Focus.itemStart _
    · rfl

end
end ActionTree.Binding

import ActionTree.Proofs.Quiet

/-! What a request for a frame comes to, told by its evaluations alone. Each relation holds
between a result and the events on the way to it, whatever the evaluator answers. -/
namespace ActionTree.Binding
open Focus (start)
variable {H : Host}

def Spec.request {Item : Type} (spec : Spec) (stack : Stack Item) (modelId? : Option String)
    (focus : Focus Item) (expression : String) : Request Item :=
  { focus, expression, namespaces := spec.namespaces, «variables» := stack.current.variables,
    sourceId := spec.sourceId, modelId?, location? := spec.location? }

def Stack.groundOf {Item : Type} (stack : Stack Item) (spec : Spec) :
    Except BindingError (Focus Item × Option String) :=
  match spec.model? with
  | none => .ok (stack.current.focus, stack.current.modelId?)
  | some id => (stack.modelRoot id).map fun items => (start items, some id)

def Stack.frameOver {Item : Type} (stack : Stack Item) (spec : Spec) (modelId? : Option String)
    (context focus : Focus Item) : Frame Item :=
  { focus, contextItem? := context.item?, «variables» := stack.current.variables,
    overridden := spec.context?.isSome, modelId? }

def Stack.after {Item : Type} (stack : Stack Item) : Except BindingError (Frame Item) → Stack Item
  | .error _ => stack
  | .ok frame => stack.push frame

variable (stack : Stack H.Item) (spec : Spec)

inductive Selection (modelId? : Option String) (focus : Focus H.Item) (expression : String) :
    Except BindingError (List H.Item) → List (Event H) → Prop where
  | skipped (outside : ¬ focus.InRange) : Selection modelId? focus expression (.ok []) []
  | evaluated (inside : focus.InRange) (answer : Except EvalError (List H.Item)) :
      Selection modelId? focus expression (answer.mapError .evaluation)
        [.evaluated .binding .items (spec.request stack modelId? focus expression) answer]

inductive Narrowing (modelId? : Option String) (base : Focus H.Item) :
    Except BindingError (Focus H.Item) → List (Event H) → Prop where
  | kept (absent : spec.context? = none) : Narrowing modelId? base (.ok base) []
  | selected {expression result events} (present : spec.context? = some expression)
      (selection : Selection stack spec modelId? base expression result events) :
      Narrowing modelId? base (result.map start) events

inductive Settling (modelId? : Option String) (context : Focus H.Item) :
    Except BindingError (Focus H.Item) → List (Event H) → Prop where
  | undeclared {id error} (present : spec.bind? = some id)
      (unknown : stack.bindRoot id = .error error) : Settling modelId? context (.error error) []
  | bound {id bind root result events} (present : spec.bind? = some id)
      (declared : stack.bindRoot id = .ok (bind, root))
      (selection : Selection stack spec modelId? ⟨root, 1⟩ bind.ref result events) :
      Settling modelId? context (result.map start) events
  | selected {expression result events} (unbound : spec.bind? = none)
      (present : spec.select? = some expression)
      (selection : Selection stack spec modelId? context expression result events) :
      Settling modelId? context (result.map start) events
  | kept (unbound : spec.bind? = none) (absent : spec.select? = none) :
      Settling modelId? context (.ok context) []

inductive Derivation : Except BindingError (Frame H.Item) → List (Event H) → Prop where
  | ungrounded {error} (unknown : stack.groundOf spec = .error error) : Derivation (.error error) []
  | unnarrowed {base modelId? error events} (grounded : stack.groundOf spec = .ok (base, modelId?))
      (narrowed : Narrowing stack spec modelId? base (.error error) events) :
      Derivation (.error error) events
  | unsettled {base modelId? context error events events'}
      (grounded : stack.groundOf spec = .ok (base, modelId?))
      (narrowed : Narrowing stack spec modelId? base (.ok context) events)
      (settled : Settling stack spec modelId? context (.error error) events') :
      Derivation (.error error) (events ++ events')
  | derived {base modelId? context focus events events'}
      (grounded : stack.groundOf spec = .ok (base, modelId?))
      (narrowed : Narrowing stack spec modelId? base (.ok context) events)
      (settled : Settling stack spec modelId? context (.ok focus) events') :
      Derivation (.ok (stack.frameOver spec modelId? context focus)) (events ++ events')

section
variable {stack spec}

theorem Selection.evaluates {modelId? : Option String} {focus : Focus H.Item} {expression : String}
    {result : Except BindingError (List H.Item)} {events : List (Event H)}
    (selection : Selection stack spec modelId? focus expression result events) :
    ∀ event ∈ events, ∃ request answer, event = .evaluated .binding .items request answer := by
  cases selection with
  | skipped outside => simp
  | evaluated inside answer => exact fun event member => ⟨_, answer, List.mem_singleton.mp member⟩

theorem Derivation.evaluates {result : Except BindingError (Frame H.Item)} {events : List (Event H)}
    (derivation : Derivation stack spec result events) :
    ∀ event ∈ events, ∃ request answer, event = .evaluated .binding .items request answer := by
  have narrowing {modelId? base result events}
      (narrowed : Narrowing stack spec modelId? base result events) :
      ∀ event ∈ events, ∃ request answer, event = .evaluated .binding .items request answer := by
    cases narrowed with
    | kept absent => simp
    | selected present selection => exact selection.evaluates
  have settling {modelId? base result events}
      (settled : Settling stack spec modelId? base result events) :
      ∀ event ∈ events, ∃ request answer, event = .evaluated .binding .items request answer := by
    cases settled with
    | undeclared present unknown => simp
    | bound present declared selection => exact selection.evaluates
    | selected unbound present selection => exact selection.evaluates
    | kept unbound absent => simp
  intro event member
  cases derivation with
  | ungrounded unknown => cases member
  | unnarrowed grounded narrowed => exact narrowing narrowed event member
  | unsettled grounded narrowed settled =>
    exact (List.mem_append.mp member).elim (narrowing narrowed event) (settling settled event)
  | derived grounded narrowed settled =>
    exact (List.mem_append.mp member).elim (narrowing narrowed event) (settling settled event)

end

section
variable (evaluator : Evaluator H.State H.Item)

theorem selectSound (modelId? : Option String) (focus : Focus H.Item) (expression : String)
    (machine : Machine H) : Selection stack spec modelId? focus expression
      (select evaluator stack spec modelId? focus expression machine).result
      (select evaluator stack spec modelId? focus expression machine).events := by
  unfold select
  split
  · next inside => exact .evaluated inside _
  · next outside => exact .skipped outside

theorem mapResult {ε α β : Type} (act : Act H ε α) (change : α → β) (machine : Machine H) :
    ((act >>= fun value => pure (change value)) machine).result = (act machine).result.map change ∧
      ((act >>= fun value => pure (change value)) machine).events = (act machine).events := by
  cases ended : (act machine).result with
  | error error =>
    rw [Act.bindError ended]
    exact ⟨rfl, rfl⟩
  | ok value =>
    rw [Act.bindOk ended]
    exact ⟨rfl, List.append_nil _⟩

theorem givenEq {ε α β : Type} (value : α) (next : α → Act H ε β) (machine : Machine H) :
    (Act.ofExcept (.ok value) >>= next) machine = next value machine := by
  have given : (Act.ofExcept (.ok value) machine : Outcome H ε α).result = .ok value := rfl
  rw [Act.bindOk given]
  rfl

theorem groundEq (machine : Machine H) :
    ground stack spec machine = ⟨stack.groundOf spec, machine, []⟩ := by
  unfold ground Stack.groundOf
  cases spec.model? with
  | none => rfl
  | some id => cases ended : stack.modelRoot id <;> simp [ended] <;> rfl

theorem narrowSound (modelId? : Option String) (base : Focus H.Item) (machine : Machine H) :
    Narrowing stack spec modelId? base (narrow evaluator stack spec modelId? base machine).result
      (narrow evaluator stack spec modelId? base machine).events := by
  cases present : spec.context? with
  | none =>
    simp only [narrow, present]
    exact .kept present
  | some expression =>
    simp only [narrow, present]
    have mapped := mapResult (select evaluator stack spec modelId? base expression) start machine
    rw [mapped.1, mapped.2]
    exact .selected present (selectSound stack spec evaluator modelId? base expression machine)

theorem settleSound (modelId? : Option String) (context : Focus H.Item) (machine : Machine H) :
    Settling stack spec modelId? context (settle evaluator stack spec modelId? context machine).result
      (settle evaluator stack spec modelId? context machine).events := by
  cases present : spec.bind? with
  | some id =>
    simp only [settle, present]
    cases known : stack.bindRoot id with
    | error error => exact .undeclared present known
    | ok found =>
      have mapped := mapResult (select evaluator stack spec modelId? ⟨found.2, 1⟩ found.1.ref)
        start machine
      rw [givenEq, mapped.1, mapped.2]
      exact .bound present known (selectSound stack spec evaluator modelId? _ _ machine)
  | none =>
    cases wanted : spec.select? with
    | none =>
      simp only [settle, present, wanted]
      exact .kept present wanted
    | some expression =>
      simp only [settle, present, wanted]
      have mapped := mapResult (select evaluator stack spec modelId? context expression) start machine
      rw [mapped.1, mapped.2]
      exact .selected present wanted
        (selectSound stack spec evaluator modelId? context expression machine)

theorem frameForEq : frameFor evaluator stack spec = (do
    let (base, modelId?) ← ground stack spec
    let context ← narrow evaluator stack spec modelId? base
    let focus ← settle evaluator stack spec modelId? context
    return stack.frameOver spec modelId? context focus) := rfl

theorem frameForSound (machine : Machine H) :
    Derivation stack spec (frameFor evaluator stack spec machine).result
      (frameFor evaluator stack spec machine).events := by
  rw [frameForEq]
  cases grounded : stack.groundOf spec with
  | error error =>
    have unknown : (ground stack spec machine : Outcome H _ _).result = .error error := by
      rw [groundEq, grounded]
    rw [Act.bindError unknown, groundEq]
    exact .ungrounded grounded
  | ok found =>
    obtain ⟨base, modelId?⟩ := found
    have known : (ground stack spec machine : Outcome H _ _).result = .ok (base, modelId?) := by
      rw [groundEq, grounded]
    rw [Act.bindOk known, groundEq]
    have narrowed := narrowSound stack spec evaluator modelId? base machine
    cases first : (narrow evaluator stack spec modelId? base machine).result with
    | error error =>
      rw [first] at narrowed
      simp only [Act.bindError first]
      exact .unnarrowed grounded narrowed
    | ok context =>
      rw [first] at narrowed
      simp only [Act.bindOk first, Outcome.after, List.nil_append]
      have settled := settleSound stack spec evaluator modelId? context
        (narrow evaluator stack spec modelId? base machine).machine
      have mapped := mapResult (settle evaluator stack spec modelId? context)
        (stack.frameOver spec modelId? context)
        (narrow evaluator stack spec modelId? base machine).machine
      rw [mapped.1, mapped.2]
      cases last : (settle evaluator stack spec modelId? context
          (narrow evaluator stack spec modelId? base machine).machine).result with
      | error error =>
        rw [last] at settled
        exact .unsettled grounded narrowed settled
      | ok focus =>
        rw [last] at settled
        exact .derived grounded narrowed settled

theorem installEq (event : Except BindingError (Frame H.Item) → Nat → Event H)
    {machine : Machine H} (same : machine.stack = stack)
    (result : Except BindingError (Frame H.Item)) :
    install event stack result machine =
      ⟨result.map fun _ => (), ⟨machine.state, stack.after result⟩,
        [event result (stack.after result).depth]⟩ := by
  subst same
  cases result <;> rfl

theorem pushEq (caller : Caller) (spec : Spec) (machine : Machine H) :
    push evaluator caller spec machine =
      (let derived := frameFor evaluator machine.stack spec machine
      ⟨derived.result.map fun _ => (), ⟨derived.machine.state, machine.stack.after derived.result⟩,
        derived.events ++ [.pushed caller spec derived.result
          (machine.stack.after derived.result).depth]⟩) := by
  have quiet := (plainFrameFor evaluator machine.stack spec).quiet machine
  have installed := installEq machine.stack (.pushed caller spec) quiet.1
    (frameFor evaluator machine.stack spec machine).result
  exact congrArg (Outcome.after · (frameFor evaluator machine.stack spec machine).events) installed

theorem pushSound (caller : Caller) (spec : Spec) (machine : Machine H) :
    ∃ state result events, Derivation machine.stack spec result events ∧
      (∀ event ∈ events, event.Quiet) ∧ push evaluator caller spec machine =
        ⟨result.map fun _ => (), ⟨state, machine.stack.after result⟩,
          events ++ [.pushed caller spec result (machine.stack.after result).depth]⟩ :=
  ⟨_, _, _, frameForSound machine.stack spec evaluator machine,
    ((plainFrameFor evaluator machine.stack spec).quiet machine).2,
    pushEq evaluator caller spec machine⟩

theorem pushElementEq (caller : Caller) (index : Nat) (machine : Machine H) :
    pushElement caller index machine =
      ⟨(machine.stack.elementFrame index).map fun _ => (),
        ⟨machine.state, machine.stack.after (machine.stack.elementFrame index)⟩,
        [.iterated caller index (machine.stack.elementFrame index)
          (machine.stack.after (machine.stack.elementFrame index)).depth]⟩ :=
  installEq machine.stack (.iterated caller index) rfl (machine.stack.elementFrame index)

end
end ActionTree.Binding

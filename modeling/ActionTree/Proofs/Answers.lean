import ActionTree.Proofs.Derivation

/-! What a request for a frame comes to with an evaluator. Its answers are given one after another,
and of all the conclusions that the request may come to they leave one. -/
namespace ActionTree
variable {H : Host} {evaluator : Evaluator H.State H.Item}

/-- The evaluator gives these answers, each in the state that the one before it left. -/
inductive Answered (evaluator : Evaluator H.State H.Item) :
    H.State → List (Event H) → H.State → Prop where
  | none (state : H.State) : Answered evaluator state [] state
  | next {purpose mode request answer before between after events}
      (answered : evaluator mode request before = (answer, between))
      (rest : Answered evaluator between events after) :
      Answered evaluator before (.evaluated purpose mode request answer :: events) after

section
variable {ε α β : Type} {result : Except ε α} {change : α → β}

theorem mappedOk {value : β} :
    result.map change = .ok value ↔ ∃ before, result = .ok before ∧ change before = value := by
  cases result <;> simp [Except.map]

theorem mappedError {error : ε} : result.map change = .error error ↔ result = .error error := by
  cases result <;> simp [Except.map]

end

namespace Answered
variable {before after : H.State} {events later : List (Event H)}

theorem append {between : H.State} (first : Answered evaluator before events between)
    (second : Answered evaluator between later after) :
    Answered evaluator before (events ++ later) after := by
  induction first with
  | none state => exact second
  | next answered _ ih => exact .next answered (ih second)

theorem split (answers : Answered evaluator before (events ++ later) after) :
    ∃ between, Answered evaluator before events between ∧ Answered evaluator between later after := by
  induction events generalizing before with
  | nil => exact ⟨before, .none before, answers⟩
  | cons event events ih =>
    cases answers with
    | next answered rest =>
      obtain ⟨between, first, second⟩ := ih rest
      exact ⟨between, .next answered first, second⟩

theorem chained : Chained (H := H) fun machine events machine' =>
    Answered evaluator machine.state events machine'.state where
  still machine := .none machine.state
  join first second := first.append second

end Answered

namespace Binding
open Focus (start)
variable {stack : Stack H.Item} {spec : Spec} {modelId? : Option String}

section
variable (stack : Stack H.Item) (spec : Spec)

/-- The sequence that a new frame is selected from, and its model. -/
inductive Based : Focus H.Item → Option String → Prop where
  | current (absent : spec.model? = none) : Based stack.current.focus stack.current.modelId?
  | model {id items} (present : spec.model? = some id) (known : stack.models.get? id = some items) :
      Based (start items) (some id)

/-- The last expression, and what it is evaluated on. -/
inductive Selects (context : Focus H.Item) : Focus H.Item → String → Prop where
  | bind {id bind root} (present : spec.bind? = some id) (declared : stack.binds.get? id = some bind)
      (known : stack.models.get? bind.modelId = some root) : Selects context ⟨root, 1⟩ bind.ref
  | select {expression} (unbound : spec.bind? = none) (present : spec.select? = some expression) :
      Selects context context expression

/-- How a request for a frame may conclude, with its evaluations. It fails where it first can. -/
inductive Conclusion : Except BindingError (Frame H.Item) → List (Event H) → Prop where
  | unknownModel {id} (present : spec.model? = some id) (unknown : stack.models.get? id = none) :
      Conclusion (.error (.unknownModel id)) []
  | contextFailed {base modelId? error events} (based : Based stack spec base modelId?)
      (narrowed : Narrowing stack spec modelId? base (.error error) events) :
      Conclusion (.error error) events
  | unknownBind {base modelId? context events id} (based : Based stack spec base modelId?)
      (narrowed : Narrowing stack spec modelId? base (.ok context) events)
      (present : spec.bind? = some id) (unknown : stack.binds.get? id = none) :
      Conclusion (.error (.unknownBind id)) events
  | unknownBindModel {base modelId? context events id bind} (based : Based stack spec base modelId?)
      (narrowed : Narrowing stack spec modelId? base (.ok context) events)
      (present : spec.bind? = some id) (declared : stack.binds.get? id = some bind)
      (unknown : stack.models.get? bind.modelId = none) :
      Conclusion (.error (.unknownModel bind.modelId)) events
  | selectionFailed {base modelId? context focus expression error events events'}
      (based : Based stack spec base modelId?)
      (narrowed : Narrowing stack spec modelId? base (.ok context) events)
      (selects : Selects stack spec context focus expression)
      (selection : Selection stack spec modelId? focus expression (.error error) events') :
      Conclusion (.error error) (events ++ events')
  | selected {base modelId? context focus expression items events events'}
      (based : Based stack spec base modelId?)
      (narrowed : Narrowing stack spec modelId? base (.ok context) events)
      (selects : Selects stack spec context focus expression)
      (selection : Selection stack spec modelId? focus expression (.ok items) events') :
      Conclusion (.ok (stack.frameOver spec modelId? context (start items))) (events ++ events')
  | kept {base modelId? context events} (based : Based stack spec base modelId?)
      (narrowed : Narrowing stack spec modelId? base (.ok context) events)
      (unbound : spec.bind? = none) (absent : spec.select? = none) :
      Conclusion (.ok (stack.frameOver spec modelId? context context)) events

end
section
variable {base context : Focus H.Item} {error : BindingError} {id : String}

theorem bindRootOk {bind : Bind} {root : List H.Item} : stack.bindRoot id = .ok (bind, root) ↔
    stack.binds.get? id = some bind ∧ stack.models.get? bind.modelId = some root := by
  unfold Stack.bindRoot
  cases stack.binds.get? id with
  | none => simp
  | some found =>
    simp only [mappedOk, Stack.modelRootOk, Prod.mk.injEq, Option.some.injEq]
    constructor
    · rintro ⟨items, known, rfl, rfl⟩
      exact ⟨rfl, known⟩
    · rintro ⟨rfl, known⟩
      exact ⟨root, known, rfl, rfl⟩

theorem bindRootError : stack.bindRoot id = .error error ↔
    stack.binds.get? id = none ∧ error = .unknownBind id ∨
      ∃ bind, stack.binds.get? id = some bind ∧ stack.models.get? bind.modelId = none ∧
        error = .unknownModel bind.modelId := by
  unfold Stack.bindRoot
  cases stack.binds.get? id with
  | none => simp [eq_comm]
  | some found => simp [mappedError, Stack.modelRootError]

theorem basedIff :
    Based stack spec base modelId? ↔ stack.groundOf spec = .ok (base, modelId?) := by
  unfold Stack.groundOf
  constructor
  · intro based
    cases based with
    | current absent => simp [absent]
    | model present known => simp [present, mappedOk, Stack.modelRootOk, known]
  · intro grounded
    cases present : spec.model? with
    | none =>
      rw [present] at grounded
      cases grounded
      exact .current present
    | some id =>
      rw [present] at grounded
      obtain ⟨items, known, same⟩ := mappedOk.mp grounded
      cases same
      exact .model present (Stack.modelRootOk.mp known)

theorem groundOfError : stack.groundOf spec = .error error ↔
    ∃ id, spec.model? = some id ∧ stack.models.get? id = none ∧ error = .unknownModel id := by
  unfold Stack.groundOf
  cases spec.model? <;> simp [mappedError, Stack.modelRootError]

theorem Selects.settled {focus : Focus H.Item} {expression : String}
    {result : Except BindingError (List H.Item)} {events : List (Event H)}
    (selects : Selects stack spec context focus expression)
    (selection : Selection stack spec modelId? focus expression result events) :
    Settling stack spec modelId? context (result.map start) events := by
  cases selects with
  | bind present declared known => exact .bound present (bindRootOk.mpr ⟨declared, known⟩) selection
  | select unbound present => exact .selected unbound present selection

theorem Settling.means {result : Except BindingError (Focus H.Item)} {events : List (Event H)}
    (settled : Settling stack spec modelId? context result events) :
    (∃ id error, spec.bind? = some id ∧ stack.bindRoot id = .error error ∧
        result = .error error ∧ events = []) ∨
      (∃ focus expression items, Selects stack spec context focus expression ∧
        Selection stack spec modelId? focus expression items events ∧ result = items.map start) ∨
      spec.bind? = none ∧ spec.select? = none ∧ result = .ok context ∧ events = [] := by
  cases settled with
  | undeclared present unknown => exact .inl ⟨_, _, present, unknown, rfl, rfl⟩
  | bound present declared selection =>
    obtain ⟨declared, known⟩ := bindRootOk.mp declared
    exact .inr (.inl ⟨_, _, _, .bind present declared known, selection, rfl⟩)
  | selected unbound present selection =>
    exact .inr (.inl ⟨_, _, _, .select unbound present, selection, rfl⟩)
  | kept unbound absent => exact .inr (.inr ⟨unbound, absent, rfl, rfl⟩)

theorem conclusionIff {result : Except BindingError (Frame H.Item)} {events : List (Event H)} :
    Conclusion stack spec result events ↔ Derivation stack spec result events := by
  constructor
  · intro conclusion
    cases conclusion with
    | unknownModel present unknown =>
      exact .ungrounded (groundOfError.mpr ⟨_, present, unknown, rfl⟩)
    | contextFailed based narrowed => exact .unnarrowed (basedIff.mp based) narrowed
    | unknownBind based narrowed present unknown =>
      have undeclared := bindRootError.mpr (.inl ⟨unknown, rfl⟩)
      simpa using Derivation.unsettled (basedIff.mp based) narrowed (.undeclared present undeclared)
    | unknownBindModel based narrowed present declared unknown =>
      have undeclared := bindRootError.mpr (.inr ⟨_, declared, unknown, rfl⟩)
      simpa using Derivation.unsettled (basedIff.mp based) narrowed (.undeclared present undeclared)
    | selectionFailed based narrowed selects selection =>
      exact .unsettled (basedIff.mp based) narrowed (selects.settled selection)
    | selected based narrowed selects selection =>
      exact .derived (basedIff.mp based) narrowed (selects.settled selection)
    | kept based narrowed unbound absent =>
      simpa using Derivation.derived (basedIff.mp based) narrowed (.kept unbound absent)
  · intro derivation
    cases derivation with
    | ungrounded unknown =>
      obtain ⟨id, present, undeclared, rfl⟩ := groundOfError.mp unknown
      exact .unknownModel present undeclared
    | unnarrowed grounded narrowed => exact .contextFailed (basedIff.mpr grounded) narrowed
    | unsettled grounded narrowed settled =>
      -- A derivation does not tell an unknown bind from the unknown model of a known one.
      have based := basedIff.mpr grounded
      obtain ⟨id, _, present, undeclared, same, rfl⟩ | ⟨_, _, items, selects, selection, same⟩ |
        ⟨_, _, same, _⟩ := settled.means
      · cases same
        rw [List.append_nil]
        obtain ⟨unknown, rfl⟩ | ⟨bind, declared, unknown, rfl⟩ := bindRootError.mp undeclared
        · exact .unknownBind based narrowed present unknown
        · exact .unknownBindModel based narrowed present declared unknown
      · rw [mappedError.mp same.symm] at selection
        exact .selectionFailed based narrowed selects selection
      · cases same
    | derived grounded narrowed settled =>
      have based := basedIff.mpr grounded
      obtain ⟨_, _, _, _, same, _⟩ | ⟨_, _, items, selects, selection, same⟩ |
        ⟨unbound, absent, same, rfl⟩ := settled.means
      · cases same
      · obtain ⟨found, rfl, rfl⟩ := mappedOk.mp same.symm
        exact .selected based narrowed selects selection
      · cases same
        rw [List.append_nil]
        exact .kept based narrowed unbound absent

end
section
variable {R : Machine H → List (Event H) → Machine H → Prop} (chained : Chained R)
  (evaluated : ∀ request, (Act.evaluate evaluator .binding .items request).Keeps R)
include chained evaluated

theorem selectKeeps (focus : Focus H.Item) (expression : String) :
    (select evaluator stack spec modelId? focus expression).Keeps R := by
  unfold select
  split
  · exact Act.keepsMapError (evaluated _) _
  · exact Act.keepsPure chained []

theorem frameForKeeps : (frameFor evaluator stack spec).Keeps R := by
  have started (focus : Focus H.Item) (expression : String) (modelId? : Option String) :
      Act.Keeps R (select evaluator stack spec modelId? focus expression >>= fun items =>
        pure (start items)) :=
    Act.keepsBind chained (selectKeeps chained evaluated focus expression) fun _ =>
      Act.keepsPure chained _
  rw [frameForEq]
  refine Act.keepsBind chained (fun machine => ?_) fun grounded =>
    Act.keepsBind chained ?_ fun context => Act.keepsBind chained ?_ fun focus =>
      Act.keepsPure chained _
  · rw [groundEq]
    exact chained.still machine
  · unfold narrow
    split
    · exact Act.keepsPure chained _
    · exact started _ _ _
  · unfold settle
    split
    · exact Act.keepsBind chained (Act.keepsOfExcept chained _) fun _ => started _ _ _
    · exact started _ _ _
    · exact Act.keepsPure chained _

end
section
variable {machine : Machine H} {state : H.State} {events : List (Event H)}

theorem Selection.ran {focus : Focus H.Item} {expression : String}
    {result : Except BindingError (List H.Item)}
    (selection : Selection stack spec modelId? focus expression result events)
    (answers : Answered evaluator machine.state events state) :
    select evaluator stack spec modelId? focus expression machine =
      ⟨result, { machine with state }, events⟩ := by
  cases selection with
  | skipped outside =>
    cases answers
    rw [select, if_neg outside]
    rfl
  | evaluated inside answer =>
    cases answers with
    | next answered rest =>
      cases rest
      rw [select, if_pos inside]
      exact Act.mapErrorBy (Act.evaluateBy .binding answered)

theorem Selection.starts {focus : Focus H.Item} {expression : String}
    {result : Except BindingError (List H.Item)}
    (selection : Selection stack spec modelId? focus expression result events)
    (answers : Answered evaluator machine.state events state) :
    (select evaluator stack spec modelId? focus expression >>= fun items => pure (start items))
      machine = ⟨result.map start, { machine with state }, events⟩ := by
  rw [Act.mapEq, selection.ran answers]

theorem Narrowing.ran {base : Focus H.Item} {result : Except BindingError (Focus H.Item)}
    (narrowed : Narrowing stack spec modelId? base result events)
    (answers : Answered evaluator machine.state events state) :
    narrow evaluator stack spec modelId? base machine = ⟨result, { machine with state }, events⟩ := by
  cases narrowed with
  | kept absent =>
    cases answers
    simp only [narrow, absent]
    rfl
  | selected present selection =>
    simp only [narrow, present]
    exact selection.starts answers

theorem Settling.ran {context : Focus H.Item} {result : Except BindingError (Focus H.Item)}
    (settled : Settling stack spec modelId? context result events)
    (answers : Answered evaluator machine.state events state) :
    settle evaluator stack spec modelId? context machine =
      ⟨result, { machine with state }, events⟩ := by
  cases settled with
  | undeclared present unknown =>
    cases answers
    simp only [settle, present, unknown]
    rfl
  | bound present declared selection =>
    simp only [settle, present, declared]
    rw [givenEq]
    exact selection.starts answers
  | selected unbound present selection =>
    simp only [settle, unbound, present]
    exact selection.starts answers
  | kept unbound absent =>
    cases answers
    simp only [settle, unbound, absent]
    rfl

theorem frameForBy {base : Focus H.Item} (grounded : stack.groundOf spec = .ok (base, modelId?)) :
    frameFor evaluator stack spec machine = (narrow evaluator stack spec modelId? base >>=
      fun context => settle evaluator stack spec modelId? context >>=
      fun focus => pure (stack.frameOver spec modelId? context focus)) machine := by
  have known := groundEq stack spec machine
  rw [grounded] at known
  rw [frameForEq, Act.bindBy known]
  rfl

theorem Derivation.ran {result : Except BindingError (Frame H.Item)}
    (derivation : Derivation stack spec result events)
    (answers : Answered evaluator machine.state events state) :
    frameFor evaluator stack spec machine = ⟨result, { machine with state }, events⟩ := by
  cases derivation with
  | ungrounded unknown =>
    cases answers
    have stopped := groundEq stack spec machine
    rw [unknown] at stopped
    rw [frameForEq, Act.bindStops stopped]
  | unnarrowed grounded narrowed =>
    rw [frameForBy grounded, Act.bindStops (narrowed.ran answers)]
  | unsettled grounded narrowed settled =>
    obtain ⟨between, first, second⟩ := answers.split
    rw [frameForBy grounded]
    exact Act.bindThen (narrowed.ran first) (Act.bindStops (settled.ran second))
  | derived grounded narrowed settled =>
    obtain ⟨between, first, second⟩ := answers.split
    rw [frameForBy grounded]
    refine Act.bindThen (narrowed.ran first) ?_
    rw [Act.mapEq, settled.ran second]
    rfl

theorem frameForAnswered (machine : Machine H) : Answered evaluator machine.state
    (frameFor evaluator stack spec machine).events
    (frameFor evaluator stack spec machine).machine.state :=
  frameForKeeps Answered.chained (fun _ _ => .next rfl (.none _)) machine

theorem Derivation.few {result : Except BindingError (Frame H.Item)}
    (derivation : Derivation stack spec result events) : events.length ≤ 2 := by
  have selecting {modelId? focus expression result} {events : List (Event H)}
      (selection : Selection stack spec modelId? focus expression result events) :
      events.length ≤ 1 := by
    cases selection <;> simp
  have narrowing {modelId? base result} {events : List (Event H)}
      (narrowed : Narrowing stack spec modelId? base result events) : events.length ≤ 1 := by
    cases narrowed with
    | kept absent => exact Nat.zero_le 1
    | selected present selection => exact selecting selection
  have settling {modelId? context result} {events : List (Event H)}
      (settled : Settling stack spec modelId? context result events) : events.length ≤ 1 := by
    cases settled with
    | undeclared present unknown => exact Nat.zero_le 1
    | bound present declared selection => exact selecting selection
    | selected unbound present selection => exact selecting selection
    | kept unbound absent => exact Nat.zero_le 1
  cases derivation with
  | ungrounded unknown => exact Nat.zero_le 2
  | unnarrowed grounded narrowed => exact Nat.le_succ_of_le (narrowing narrowed)
  | unsettled grounded narrowed settled =>
    rw [List.length_append]
    exact Nat.add_le_add (narrowing narrowed) (settling settled)
  | derived grounded narrowed settled =>
    rw [List.length_append]
    exact Nat.add_le_add (narrowing narrowed) (settling settled)

end

/-- A push concludes as the evaluator's answers allow, in one way, and needs two at the most. -/
theorem pushConcludes {caller : Caller} {machine : Machine H} {outcome : Outcome H BindingError Unit} :
    push evaluator caller spec machine = outcome ↔
      ∃ result events state, Conclusion machine.stack spec result events ∧
        Answered evaluator machine.state events state ∧ events.length ≤ 2 ∧
        outcome = ⟨result.map fun _ => (), ⟨state, machine.stack.after result⟩,
          events ++ [.pushed caller spec result (machine.stack.after result).depth]⟩ := by
  rw [pushEq]
  constructor
  · rintro rfl
    have derivation := frameForSound machine.stack spec evaluator machine
    exact ⟨_, _, _, conclusionIff.mpr derivation, frameForAnswered machine, derivation.few, rfl⟩
  · rintro ⟨result, events, state, conclusion, answers, -, rfl⟩
    rw [(conclusionIff.mp conclusion).ran answers]

end Binding
end ActionTree

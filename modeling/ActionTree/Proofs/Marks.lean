import ActionTree.Proofs.Derivation
import ActionTree.Proofs.Invariance
import ActionTree.Proofs.Nesting

/-! What the log shows of executions. Each is begun, dispatched and done, and those inside it are
over before it is done; one that is broken off is not done. -/
namespace ActionTree
variable {H : Host}

/-- Is a line of the log with this text. -/
def Event.says (text : String) : Event H → Bool
  | .logged entry _ => entry.message = text
  | _ => false

def Event.begins (event : Event H) : Bool := event.says "executing"

def Event.finishes (event : Event H) : Bool := event.says "done"

def Event.marks (event : Event H) : Bool := event.begins || event.finishes || event.dispatches

def marks (events : List (Event H)) : List (Event H) := events.filter Event.marks

/-- A bracket word with one pair for each dispatch, in the span of the action that is dispatched. -/
inductive Paired : List (Event H) → Prop where
  | nil : Paired []
  | pair {spans pass? action overridden? frame inner rest} (inside : Paired inner)
      (more : Paired rest) :
      Paired (.logged .executing (spans ++ [⟨action.name, pass?⟩]) ::
        .dispatched action overridden? frame ::
          (inner ++ .logged .done (spans ++ [⟨action.name, pass?⟩]) :: rest))

/-- A bracket word in which so many of the executions that were begun are not done. The innermost
of them may not have been dispatched. -/
inductive Unclosed : Nat → List (Event H) → Prop where
  | none {events} (paired : Paired events) : Unclosed 0 events
  | begun {before spans after} (paired : Paired before) (later : Paired after) :
      Unclosed 1 (before ++ .logged .executing spans :: after)
  | inside {before spans action overridden? frame depth inner} (paired : Paired before)
      (unclosed : Unclosed depth inner) :
      Unclosed (depth + 1)
        (before ++ .logged .executing spans :: .dispatched action overridden? frame :: inner)

section
variable {events early late : List (Event H)}

theorem marksAppend (early late : List (Event H)) : marks (early ++ late) = marks early ++ marks late :=
  List.filter_append ..

theorem marksNone (unmarked : ∀ event ∈ events, event.marks = false) : marks events = [] :=
  List.filter_eq_nil_iff.mpr fun event member => by simp [unmarked event member]

theorem marksCons {event : Event H} (unmarked : event.marks = false) (rest : List (Event H)) :
    marks (event :: rest) = marks rest :=
  List.filter_cons_of_neg (by simp [unmarked])

theorem marksBefore (unmarked : ∀ event ∈ late, event.marks = false) :
    marks (early ++ late) = marks early := by
  rw [marksAppend, marksNone unmarked, List.append_nil]

theorem marksExecution (action : Action) (overridden? : Option H.Item) (frame : Binding.Frame H.Item)
    (result : Except ActionError Unit) (inner : List (Event H)) :
    marks (.dispatched action overridden? frame :: (inner ++ [.returned action result])) =
      .dispatched action overridden? frame :: marks inner :=
  congrArg (_ :: ·) (marksBefore (List.forall_mem_singleton.mpr rfl))

theorem marksLevel (action : Action) (result : Except ActionError Unit) (inner : List (Event H)) :
    marks (.entered action :: (inner ++ [.left action result])) = marks inner := by
  rw [marksCons rfl, marksBefore (List.forall_mem_singleton.mpr rfl)]

theorem Paired.ofUnmarked (unmarked : ∀ event ∈ events, event.marks = false) : Paired (marks events) :=
  marksNone unmarked ▸ .nil

theorem Paired.append (first : Paired early) (second : Paired late) : Paired (early ++ late) := by
  induction first with
  | nil => exact second
  | pair inside _ _ ih => simpa using Paired.pair inside ih

theorem Paired.counts (paired : Paired events) :
    events.countP Event.begins = events.countP Event.finishes := by
  induction paired with
  | nil => rfl
  | pair inside more within beyond =>
    simp only [List.countP_append, List.countP_cons, Event.begins, Event.finishes, Event.says,
      LogEntry.message, within, beyond, String.reduceEq, decide_true, decide_false, reduceIte,
      Bool.false_eq_true]
    omega

namespace Unclosed
variable {depth : Nat}

theorem after (paired : Paired early) (unclosed : Unclosed depth events) :
    Unclosed depth (early ++ events) := by
  cases unclosed with
  | none others => exact .none (paired.append others)
  | begun others later =>
    rw [← List.append_assoc]
    exact .begun (paired.append others) later
  | inside others unclosed =>
    rw [← List.append_assoc]
    exact .inside (paired.append others) unclosed

theorem followed (unclosed : Unclosed depth events) (paired : Paired late) :
    Unclosed depth (events ++ late) := by
  induction unclosed with
  | none others => exact .none (others.append paired)
  | begun others later =>
    rw [List.append_assoc]
    exact .begun others (later.append paired)
  | inside others _ ih =>
    rw [List.append_assoc]
    exact .inside others ih

theorem counts (unclosed : Unclosed depth events) :
    events.countP Event.begins = events.countP Event.finishes + depth := by
  induction unclosed with
  | none paired => exact paired.counts
  | begun paired later =>
    simp only [List.countP_append, List.countP_cons, Event.begins, Event.finishes, Event.says,
      LogEntry.message, paired.counts, later.counts, String.reduceEq, decide_true, decide_false, reduceIte,
      Bool.false_eq_true]
    omega
  | inside paired _ ih =>
    simp only [List.countP_append, List.countP_cons, Event.begins, Event.finishes, Event.says,
      LogEntry.message, paired.counts, ih, String.reduceEq, decide_true, decide_false, reduceIte,
      Bool.false_eq_true]
    omega

theorem countsAll (unclosed : Unclosed depth (marks events)) :
    events.countP Event.begins = events.countP Event.finishes + depth := by
  have kept {mark : Event H → Bool} (marked : ∀ event : Event H, mark event → event.marks) :
      (marks events).countP mark = events.countP mark := by
    rw [marks, List.countP_filter]
    refine List.countP_congr fun event _ => ?_
    rw [Bool.and_eq_true]
    exact ⟨And.left, fun here => ⟨here, marked event here⟩⟩
  have counts := unclosed.counts
  rwa [kept, kept] at counts
  · intro event finished
    rw [Event.marks, finished, Bool.or_true, Bool.true_or]
  · intro event begun
    rw [Event.marks, begun, Bool.true_or, Bool.true_or]

end Unclosed
end

/- What handlers ask of the interpreter, short of running actions, leaves no marks. -/

def Unmarked (_ : Machine H) (events : List (Event H)) (_ : Machine H) : Prop :=
  ∀ event ∈ events, event.marks = false

theorem unmarkedChained : Chained (Unmarked (H := H)) where
  still _ := List.forall_mem_nil _
  join first second := List.forall_mem_append.mpr ⟨first, second⟩

theorem Binding.derivationUnmarked {stack : Binding.Stack H.Item} {spec : Binding.Spec}
    {result : Except BindingError (Binding.Frame H.Item)} {events : List (Event H)}
    (derivation : Binding.Derivation stack spec result events) :
    ∀ event ∈ events, event.marks = false := by
  intro event member
  obtain ⟨request, answer, rfl⟩ := derivation.evaluates event member
  rfl

theorem Binding.poppingsUnmarked (caller : Caller) (spans : List Span)
    (stack : Binding.Stack H.Item) :
    ∀ event ∈ Binding.poppings caller spans stack, event.marks = false := by
  unfold Binding.poppings
  split
  · exact List.forall_mem_cons.mpr ⟨rfl, List.forall_mem_singleton.mpr rfl⟩
  · exact List.forall_mem_singleton.mpr rfl

namespace Act
variable {ε : Type}

theorem unmarkedRecord {event : Event H} (unmarked : event.marks = false) :
    (record event : Act H ε Unit).Keeps Unmarked :=
  fun _ => List.forall_mem_singleton.mpr unmarked

theorem unmarkedEvaluate (evaluator : Evaluator H.State H.Item) (purpose : Purpose) (mode : Mode)
    (request : Request H.Item) : (evaluate evaluator purpose mode request).Keeps Unmarked :=
  fun _ => List.forall_mem_singleton.mpr rfl

theorem unmarkedAsk (container : Container H) (question : Question H) :
    (ask container question : Act H ε question.Answer).Keeps Unmarked :=
  fun _ => List.forall_mem_singleton.mpr rfl

theorem unmarkedFrame : (frame : Act H ε (Binding.Frame H.Item)).Keeps Unmarked :=
  unmarkedChained.still

end Act
namespace Interpreter
open Act
variable (interpreter : Interpreter H)

theorem unmarkedEvaluation (purpose : Purpose) (mode : Mode) (action : Action)
    (focus : Focus H.Item) (expression : String) :
    (interpreter.evaluate purpose mode action focus expression).Keeps Unmarked :=
  keepsBind unmarkedChained unmarkedFrame fun _ => keepsMapError (unmarkedEvaluate _ _ _ _) _

theorem unmarkedCheckGuard (action : Action) (guard : Guard) (expression : String)
    (item? : Option H.Item) :
    (interpreter.checkGuard action guard expression item?).Keeps Unmarked := by
  cases item? with
  | none => exact keepsBind unmarkedChained (unmarkedRecord rfl) fun _ => keepsPure unmarkedChained _
  | some item =>
    refine keepsBind unmarkedChained (interpreter.unmarkedEvaluation .guard .items action _ _)
      fun items => ?_
    cases (List.head? items).bind H.truth? with
    | none => exact keepsOfExcept unmarkedChained _
    | some value =>
      cases value with
      | true => exact keepsPure unmarkedChained _
      | false =>
        exact keepsBind unmarkedChained (unmarkedRecord rfl) fun _ => keepsPure unmarkedChained _

theorem unmarkedFillTemplate (action : Action) (raw? : Option String) :
    (interpreter.fillTemplate action raw?).Keeps Unmarked := by
  unfold fillTemplate
  split
  · exact keepsPure unmarkedChained _
  · split
    · refine keepsBind unmarkedChained unmarkedFrame fun frame => ?_
      split
      · exact keepsPure unmarkedChained _
      · exact keepsBind unmarkedChained (interpreter.unmarkedEvaluation .template .template action _ _)
          fun _ => keepsPure unmarkedChained _
    · exact keepsPure unmarkedChained _

theorem unmarkedIndexedId (action : Action) (object : H.Object) (indexes : String) :
    (interpreter.indexedId action object indexes).Keeps Unmarked := by
  unfold indexedId
  split
  · exact keepsBind unmarkedChained (unmarkedAsk interpreter.container _)
      fun _ => keepsOfExcept unmarkedChained _
  · exact keepsBind unmarkedChained (keepsOfExcept unmarkedChained _) fun _ =>
      keepsBind unmarkedChained (unmarkedAsk interpreter.container _)
        fun _ => keepsPure unmarkedChained _

theorem unmarkedFindObject (action : Action) (targetId : String) :
    (interpreter.findObject action targetId).Keeps Unmarked := by
  refine keepsBind unmarkedChained (unmarkedAsk interpreter.container _)
    fun (found : Option H.Object) => ?_
  cases found with
  | none => exact keepsPure unmarkedChained _
  | some object =>
    refine keepsBind unmarkedChained (interpreter.unmarkedFillTemplate action _) fun written? => ?_
    split
    · exact keepsPure unmarkedChained _
    · exact keepsPure unmarkedChained _
    · exact keepsBind unmarkedChained (interpreter.unmarkedIndexedId action _ _) fun _ =>
        unmarkedAsk interpreter.container _

theorem unmarkedDeferredUpdates (action : Action) :
    (interpreter.deferredUpdates action).Keeps Unmarked := by
  refine keepsBind unmarkedChained unmarkedFrame fun frame => ?_
  split
  · exact keepsPure unmarkedChained _
  · exact keepsBind unmarkedChained (interpreter.unmarkedFillTemplate action _)
      fun _ => keepsPure unmarkedChained _

theorem unmarkedAnswer (call : Call H) : (interpreter.answer call).Keeps Unmarked := by
  cases call with
  | state => exact unmarkedChained.still
  | setState state => exact fun _ => List.forall_mem_nil _
  | items action focus expression => exact interpreter.unmarkedEvaluation _ _ _ _ _
  | text action focus expression =>
    exact keepsBind unmarkedChained (interpreter.unmarkedEvaluation _ _ _ _ _)
      fun _ => keepsPure unmarkedChained _
  | evaluate mode request => exact unmarkedEvaluate interpreter.evaluator .handler mode request
  | template action raw? => exact interpreter.unmarkedFillTemplate action raw?
  | guard action guard expression item? => exact interpreter.unmarkedCheckGuard _ _ _ _
  | find action targetId => exact interpreter.unmarkedFindObject action targetId
  | deferredUpdates action => exact interpreter.unmarkedDeferredUpdates action
  | ask question => exact unmarkedAsk interpreter.container question
  | frame => exact unmarkedFrame
  | depth => exact unmarkedChained.still
  | push spec =>
    intro machine
    obtain ⟨state, result, events, derivation, _, same⟩ :=
      Binding.pushSound interpreter.evaluator .handler spec machine
    change Unmarked _ (Binding.push interpreter.evaluator .handler spec machine).events _
    rw [same]
    exact List.forall_mem_append.mpr
      ⟨Binding.derivationUnmarked derivation, List.forall_mem_singleton.mpr rfl⟩
  | pushElement index =>
    intro machine
    change Unmarked _ (Binding.pushElement .handler index machine).events _
    rw [Binding.pushElementEq]
    exact List.forall_mem_singleton.mpr rfl
  | pop => exact fun machine => Binding.poppingsUnmarked .handler interpreter.spans machine.stack
  | note note => exact unmarkedRecord rfl

end Interpreter
end ActionTree

import ActionTree.Interpreter.Running

/-! What runs put together from steps come to, and what they keep. A relation between
the machine before, the events and the machine after is kept by a whole run when it
holds of no step at all, holds along a sequence and is kept by each step. -/
namespace ActionTree

structure Chained {H : Host} (R : Machine H → List (Event H) → Machine H → Prop) : Prop where
  still (machine : Machine H) : R machine [] machine
  join {first second third : Machine H} {before after : List (Event H)} :
    R first before second → R second after third → R first (before ++ after) third

section
variable {H : Host} {ε ε' α β : Type} {R : Machine H → List (Event H) → Machine H → Prop}

namespace Act

def Keeps (R : Machine H → List (Event H) → Machine H → Prop) (act : Act H ε α) : Prop :=
  ∀ machine, R machine (act machine).events (act machine).machine

theorem mapEq (change : α → β) (act : Act H ε α) (machine : Machine H) :
    (act >>= fun value => pure (change value)) machine =
      ⟨(act machine).result.map change, (act machine).machine, (act machine).events⟩ := by
  cases ended : (act machine).result with
  | error error =>
    rw [bindError ended]
    rfl
  | ok value =>
    rw [bindOk ended]
    exact congrArg (Outcome.mk _ _) (List.append_nil _)

theorem mapId (act : Act H ε α) : id <$> act = act := by
  funext machine
  change bind act _ machine = act machine
  unfold bind
  cases act machine with
  | mk result after events =>
    cases result with
    | error error => rfl
    | ok value => exact congrArg (Outcome.mk _ _) (List.append_nil events)

theorem bindAssoc {γ : Type} (act : Act H ε α) (next : α → Act H ε β) (last : β → Act H ε γ) :
    act >>= next >>= last = act >>= fun value => next value >>= last := by
  funext machine
  cases first : (act machine).result with
  | error error =>
    have stopped : ((act >>= next) machine).result = .error error := by rw [bindError first]
    rw [bindError stopped, bindError first, bindError first]
  | ok value =>
    cases second : (next value (act machine).machine).result with
    | error error =>
      have stopped : ((act >>= next) machine).result = .error error := by
        rw [bindOk first]
        exact second
      rw [bindError stopped, bindOk first, bindOk first, bindError second]
      rfl
    | ok value' =>
      have went : ((act >>= next) machine).result = .ok value' := by
        rw [bindOk first]
        exact second
      rw [bindOk went, bindOk first, bindOk first, bindOk second]
      simp [Outcome.after]

theorem bindBy {first : Act H ε α} {next : α → Act H ε β} {machine after : Machine H} {value : α}
    {events : List (Event H)} (ran : first machine = ⟨.ok value, after, events⟩) :
    (first >>= next) machine = (next value after).after events := by
  rw [bindOk (congrArg Outcome.result ran), ran]

theorem bindThen {first : Act H ε α} {next : α → Act H ε β} {machine between after : Machine H}
    {value : α} {result : Except ε β} {events later : List (Event H)}
    (ran : first machine = ⟨.ok value, between, events⟩)
    (continued : next value between = ⟨result, after, later⟩) :
    (first >>= next) machine = ⟨result, after, events ++ later⟩ := by
  rw [bindBy ran, continued]
  rfl

theorem bindStops {first : Act H ε α} {next : α → Act H ε β} {machine after : Machine H} {error : ε}
    {events : List (Event H)} (ran : first machine = ⟨.error error, after, events⟩) :
    (first >>= next) machine = ⟨.error error, after, events⟩ := by
  rw [bindError (congrArg Outcome.result ran), ran]

theorem mapErrorBy {act : Act H ε α} {change : ε → ε'} {machine after : Machine H}
    {result : Except ε α} {events : List (Event H)} (ran : act machine = ⟨result, after, events⟩) :
    act.mapError change machine = ⟨result.mapError change, after, events⟩ := by
  simp only [mapError, ran]

theorem evaluateBy {evaluator : Evaluator H.State H.Item} (purpose : Purpose) {mode : Mode}
    {request : Request H.Item} {machine : Machine H} {answer : Except EvalError (mode.Answer H.Item)}
    {state : H.State} (answered : evaluator mode request machine.state = (answer, state)) :
    evaluate evaluator purpose mode request machine =
      ⟨answer, { machine with state }, [.evaluated purpose mode request answer]⟩ := by
  simp only [evaluate, answered]

theorem askBy {container : Container H} {question : Question H} {machine : Machine H}
    {answer : question.Answer} {state : H.State}
    (answered : container.answer question machine.state = (answer, state)) :
    (ask container question : Act H ε question.Answer) machine =
      ⟨.ok answer, { machine with state }, [.asked question]⟩ := by
  simp only [ask, answered]

theorem bindGave {first : Act H ε α} {next : α → Act H ε β} {machine : Machine H} {value : β}
    (gave : ((first >>= next) machine).result = .ok value) : ∃ between,
      (first machine).result = .ok between ∧ (next between (first machine).machine).result = .ok value := by
  cases ended : (first machine).result with
  | error error => simp [bindError ended] at gave
  | ok between => exact ⟨between, rfl, by rwa [bindOk ended] at gave⟩

instance : LawfulMonad (Act H ε) := .mk' _ mapId (fun _ _ => rfl) bindAssoc

theorem keepsPure (chained : Chained R) (value : α) : Keeps R (pure value : Act H ε α) :=
  chained.still

theorem keepsOfExcept (chained : Chained R) (result : Except ε α) : Keeps R (ofExcept result) :=
  chained.still

theorem keepsBind (chained : Chained R) {first : Act H ε α} {next : α → Act H ε β}
    (head : first.Keeps R) (tail : ∀ value, (next value).Keeps R) : (first >>= next).Keeps R := by
  intro machine
  cases ended : (first machine).result with
  | error error =>
    rw [bindError ended]
    exact head machine
  | ok value =>
    rw [bindOk ended]
    exact chained.join (head machine) (tail value (first machine).machine)

theorem keepsMapError {act : Act H ε α} (kept : act.Keeps R) (change : ε → ε') :
    (act.mapError change).Keeps R := kept

theorem keepsAttempt {act : Act H ε α} (kept : act.Keeps R) :
    (act.attempt : Act H ε' (Except ε α)).Keeps R := kept

end Act

namespace Run

def Keeps (R : Machine H → List (Event H) → Machine H → Prop) (run : Run H ε α) : Prop :=
  ∀ machine outcome, run machine = some outcome → R machine outcome.events outcome.machine

theorem keepsOfAct {act : Act H ε α} (kept : act.Keeps R) : (ofAct act).Keeps R := by
  intro machine outcome ended
  cases ended
  exact kept machine

theorem keepsPure (chained : Chained R) (value : α) : Keeps R (pure value : Run H ε α) :=
  keepsOfAct (Act.keepsPure chained value)

theorem keepsBind (chained : Chained R) {first : Run H ε α} {next : α → Run H ε β}
    (head : first.Keeps R) (tail : ∀ value, (next value).Keeps R) : (first >>= next).Keeps R := by
  intro machine outcome ended
  obtain ⟨before, ran, ⟨error, _, rfl⟩ | ⟨value, rest, _, continued, rfl⟩⟩ := bindEqSome.mp ended
  · exact head machine before ran
  · exact chained.join (head machine before ran) (tail value before.machine rest continued)

theorem frameBind (next : Binding.Frame H.Item → Run H ε α) (machine : Machine H) :
    (Steps.frame >>= next) machine = next machine.stack.current machine := by
  change Option.map _ (next machine.stack.current machine) = _
  cases next machine.stack.current machine <;> rfl

theorem bindCongr {first : Run H ε α} {next next' : α → Run H ε β} {machine : Machine H}
    (agree : ∀ before value, first machine = some before → before.result = .ok value →
      next value before.machine = next' value before.machine) :
    (first >>= next) machine = (first >>= next') machine := by
  change bind first next machine = bind first next' machine
  unfold bind
  cases ran : first machine with
  | none => rfl
  | some before =>
    cases gave : before.result with
    | error error => simp only [gave]
    | ok value => simp only [gave, agree before value ran gave]

theorem mapErrorEqSome {run : Run H ε α} {change : ε → ε'} {machine : Machine H}
    {outcome : Outcome H ε' α} : run.mapError change machine = some outcome ↔
      ∃ before, run machine = some before ∧
        outcome = ⟨before.result.mapError change, before.machine, before.events⟩ := by
  unfold mapError
  rw [Option.map_eq_some_iff]
  simp only [eq_comm]

theorem keepsMapError {run : Run H ε α} (kept : run.Keeps R) (change : ε → ε') :
    (run.mapError change).Keeps R := by
  intro machine outcome ended
  obtain ⟨before, ran, rfl⟩ := mapErrorEqSome.mp ended
  exact kept machine before ran

theorem attemptEqSome {run : Run H ε α} {machine : Machine H} {outcome : Outcome H ε' (Except ε α)} :
    run.attempt machine = some outcome ↔
      ∃ before, run machine = some before ∧
        outcome = ⟨.ok before.result, before.machine, before.events⟩ := by
  unfold attempt
  rw [Option.map_eq_some_iff]
  simp only [eq_comm]

theorem keepsAttempt {run : Run H ε α} (kept : run.Keeps R) :
    (run.attempt : Run H ε' (Except ε α)).Keeps R := by
  intro machine outcome ended
  obtain ⟨before, ran, rfl⟩ := attemptEqSome.mp ended
  exact kept machine before ran

/-- A last step that cannot fail only adds to what the body did. -/
theorem ensuringEq {body : Run H ε α} {last : Except ε α → Act H ε Unit}
    (ends : ∀ result machine, (last result machine).result = .ok ()) (machine : Machine H) :
    Steps.ensuring body last machine = (body machine).map fun before =>
      ⟨before.result, (last before.result before.machine).machine,
        before.events ++ (last before.result before.machine).events⟩ := by
  change Run.bind body.attempt _ machine = _
  unfold Run.bind attempt
  cases body machine with
  | none => rfl
  | some before =>
    have ended := ends before.result before.machine
    change Option.map _ (Run.bind (ofAct (last before.result))
      (fun _ => ofAct (Act.ofExcept before.result)) before.machine) = _
    simp [Run.bind, ofAct, ended, Outcome.after, Act.ofExcept]

end Run
end

/-- Every call that a program may come to make is allowed, whatever the answers are. -/
def Program.Uses {H : Host} {α : Type} (allowed : Call H → Prop) : Program H α → Prop
  | .done _ => True
  | .fail _ => True
  | .ask call next => allowed call ∧ ∀ answer, (next answer).Uses allowed
  | .run _ next => ∀ result, (next result).Uses allowed

/-- Every action that a program may come to run is allowed, whatever the answers are. -/
def Program.Runs {H : Host} {α : Type} (allowed : Action → Prop) : Program H α → Prop
  | .done _ => True
  | .fail _ => True
  | .ask _ next => ∀ answer, (next answer).Runs allowed
  | .run action next => allowed action ∧ ∀ result, (next result).Runs allowed

namespace Program
variable {H : Host} {α β : Type}

section
variable {allowed : Call H → Prop}

theorem usesOfExcept (result : Except ActionError α) : (ofExcept result).Uses allowed := by
  cases result <;> trivial

theorem usesBind {program : Program H α} {rest : α → Program H β} (head : program.Uses allowed)
    (tail : ∀ value, (rest value).Uses allowed) : (program >>= rest).Uses allowed := by
  change (program.bind rest).Uses allowed
  induction program with
  | done value => exact tail value
  | fail error => trivial
  | ask call next ih => exact ⟨head.1, fun answer => ih answer (head.2 answer)⟩
  | run action next ih => exact fun result => ih result (head result)

theorem usesAny (any : ∀ call, allowed call) (program : Program H α) : program.Uses allowed := by
  induction program with
  | done value => trivial
  | fail error => trivial
  | ask call next ih => exact ⟨any call, ih⟩
  | run action next ih => exact ih

theorem usesRunAll (actions : List Action) : (runAll (H := H) actions).Uses allowed := by
  induction actions with
  | nil => trivial
  | cons action rest ih => exact usesBind usesOfExcept fun _ => ih

end

section
variable {allowed : Action → Prop}

theorem runsBind {program : Program H α} {rest : α → Program H β} (head : program.Runs allowed)
    (tail : ∀ value, (rest value).Runs allowed) : (program >>= rest).Runs allowed := by
  change (program.bind rest).Runs allowed
  induction program with
  | done value => exact tail value
  | fail error => trivial
  | ask call next ih => exact fun answer => ih answer (head answer)
  | run action next ih => exact ⟨head.1, fun result => ih result (head.2 result)⟩

theorem runsAny (any : ∀ action, allowed action) (program : Program H α) : program.Runs allowed := by
  induction program with
  | done value => trivial
  | fail error => trivial
  | ask call next ih => exact ih
  | run action next ih => exact ⟨any action, ih⟩

theorem runsRunAll {actions : List Action} (all : ∀ action ∈ actions, allowed action) :
    (runAll (H := H) actions).Runs allowed := by
  induction actions with
  | nil => trivial
  | cons action rest ih =>
    have first : (runAction (H := H) action).Runs allowed :=
      ⟨all action (by simp), fun result => by cases result <;> trivial⟩
    exact runsBind first fun _ => ih fun later member => all later (by simp [member])

end
end Program

namespace Interpreter
variable {H : Host} {ε α : Type}

theorem underEq (interpreter : Interpreter H) (enter : Act H ε Unit) (body : Run H ε α)
    (machine : Machine H) : interpreter.under enter body machine =
      match (enter machine).result with
      | .error error => some ⟨.error error, (enter machine).machine, (enter machine).events⟩
      | .ok _ => (body (enter machine).machine).map fun inner =>
          ⟨inner.result, { inner.machine with stack := inner.machine.stack.pop },
            (enter machine).events ++ (inner.events ++
              (Binding.pop (ε := ε) .interpreter interpreter.spans inner.machine).events)⟩ := by
  change Run.bind (Run.ofAct enter) _ machine = _
  cases ended : (enter machine).result with
  | error error => simp only [Run.bind, Run.ofAct, ended]
  | ok value =>
    simp only [Run.bind, Run.ofAct, ended]
    -- A pop does not fail, so it neither adds an error nor hides one of the body.
    rw [Run.ensuringEq fun _ _ => rfl, Option.map_map]
    rfl

/-- Holds of all executions of the handler of an action, whichever spans are open around them. -/
def Executions (run : Interpreter H → Action → Run H ActionError Unit) (interpreter : Interpreter H)
    (action : Action) (P : Run H ActionError Unit → Prop) : Prop :=
  ∀ spans overridden? handler, interpreter.handlerFor action.name = some handler →
    P ({ interpreter with spans }.perform (run { interpreter with spans })
      (handler (interpreter.dispatch action overridden?)))

end Interpreter
end ActionTree

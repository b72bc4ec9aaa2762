import ActionTree.Proofs.Restoration
import ActionTree.Proofs.Watching

/-! Induction over runs that may still go on. What each step upholds, with the actions that run
around it in mind, a run upholds as far as it is seen. -/
namespace ActionTree
open Binding (Stack Frame Spec)
variable {H : Host} {ε ε' α β : Type}

/-- Held by no step at all and along a sequence, the last part of which may be unfinished. -/
structure Progressing (R : Machine H → List (Event H) → Option (Machine H) → Prop) : Prop where
  still (machine : Machine H) : R machine [] (some machine)
  spent (machine : Machine H) : R machine [] none
  join {first second : Machine H} {third? : Option (Machine H)} {before after : List (Event H)} :
    R first before (some second) → R second after third? → R first (before ++ after) third?

namespace Watch
variable {R : Machine H → List (Event H) → Option (Machine H) → Prop} {watch : Watch H ε α}

def Keeps (R : Machine H → List (Event H) → Option (Machine H) → Prop) (watch : Watch H ε α) : Prop :=
  ∀ machine, R machine (watch machine).events (watch machine).after?

theorem keepsOfAct {act : Act H ε α} (kept : act.Keeps fun before events after =>
    R before events (some after)) : (ofAct act).Keeps R := kept

theorem keepsPure (progressing : Progressing R) (value : α) :
    Keeps R (pure value : Watch H ε α) := progressing.still

theorem keepsBind (progressing : Progressing R) {first : Watch H ε α} {next : α → Watch H ε β}
    (head : first.Keeps R) (tail : ∀ value, (next value).Keeps R) : (first >>= next).Keeps R := by
  intro machine
  have before := head machine
  unfold Progress.after? at before ⊢
  cases ended : (first machine).ended? with
  | none =>
    rw [ended] at before
    rw [bindPending ended]
    exact before
  | some outcome =>
    obtain ⟨result, after⟩ := outcome
    rw [ended] at before
    cases result with
    | error error =>
      rw [bindError ended]
      exact before
    | ok value =>
      rw [bindOk ended]
      exact progressing.join before (tail value after)

theorem keepsMapError (kept : watch.Keeps R) (change : ε → ε') : (watch.mapError change).Keeps R := by
  intro machine
  have same := Progress.afterMapResult (·.mapError change) (watch machine)
  exact same ▸ kept machine

theorem keepsAttempt (kept : watch.Keeps R) : (watch.attempt : Watch H ε' (Except ε α)).Keeps R := by
  intro machine
  have same : (watch.attempt machine : Progress H ε' (Except ε α)).after? = (watch machine).after? :=
    Progress.afterMapResult .ok (watch machine)
  exact same ▸ kept machine

theorem sequencingKeeps (progressing : Progressing R) :
    Sequencing (S := Watch H) (T := Watch H) fun watch _ => watch.Keeps R where
  pure := keepsPure progressing
  fail _ := progressing.still
  bind := keepsBind progressing
  mapError change kept := keepsMapError kept change
  attempt := keepsAttempt

theorem ensuringEq {body : Watch H ε α} {last : Except ε α → Act H ε Unit}
    (ends : ∀ result machine, (last result machine).result = .ok ()) (machine : Machine H) :
    Steps.ensuring body last machine = match (body machine).ended? with
      | none => ⟨none, (body machine).events⟩
      | some (result, after) => ⟨some (result, (last result after).machine),
          (body machine).events ++ (last result after).events⟩ := by
  change bind body.attempt _ machine = _
  unfold bind attempt Progress.mapResult
  cases (body machine).ended? with
  | none => rfl
  | some outcome =>
    obtain ⟨result, after⟩ := outcome
    have ended := ends result after
    let rest := bind (ofAct (last result)) (fun _ => ofAct (Act.ofExcept result)) after
    change (⟨rest.ended?, _ ++ rest.events⟩ : Progress H ε α) = _
    simp [rest, bind, ofAct, ended, Act.ofExcept]

end Watch

/-- Events that come only once a run has ended. -/
def closing (last : Machine H → List (Event H)) (after? : Option (Machine H)) : List (Event H) :=
  after?.elim [] last

theorem memClosing {last : Machine H → List (Event H)} {after? : Option (Machine H)} {event : Event H} :
    event ∈ closing last after? ↔ ∃ after, after? = some after ∧ event ∈ last after := by
  cases after? <;> simp [closing]

theorem Watch.keepsEnsuring {R : Machine H → List (Event H) → Option (Machine H) → Prop}
    (R' : Machine H → List (Event H) → Option (Machine H) → Prop) {body : Watch H ε Unit}
    (last : Except ε Unit → Act H ε Unit) (kept : body.Keeps R)
    (ends : ∀ result machine, (last result machine).result = .ok ())
    (closes : ∀ result machine events after?, R machine events after? →
      R' machine (events ++ closing (fun after => (last result after).events) after?)
        (after?.map fun after => (last result after).machine)) : Keeps R' (Steps.ensuring body last) := by
  intro machine
  have before := kept machine
  rw [ensuringEq ends]
  unfold Progress.after? at before ⊢
  cases ended : (body machine).ended? with
  | none =>
    rw [ended] at before
    simpa [closing] using closes (.ok ()) machine _ none before
  | some outcome =>
    rw [ended] at before
    exact closes outcome.1 machine _ (some outcome.2) before

def popped (machine : Machine H) : Machine H := { machine with stack := machine.stack.pop }

/-- What holds inside a new frame gives what holds outside it, and also when there is no new
frame. -/
structure Framing (outside inside : Machine H → List (Event H) → Option (Machine H) → Prop)
    (enter : Act H BindingError Unit) : Prop where
  refused {machine : Machine H} {error : BindingError} : (enter machine).result = .error error →
    outside machine (enter machine).events (some (enter machine).machine)
  framed {machine : Machine H} {events : List (Event H)} {after? : Option (Machine H)}
    (spans : List Span) : (enter machine).result = .ok () →
    inside (enter machine).machine events after? →
    outside machine ((enter machine).events ++
      (events ++ closing (fun after => Binding.poppings .interpreter spans after.stack) after?))
      (after?.map popped)

/-- Actions that run in each other, the outermost first, and one that is run by the last of them. -/
inductive RunPath (runs : Action → Action → Prop) (outermost : Action) : List Action → Action → Prop where
  | outermost : RunPath runs outermost [] outermost
  | nested {above action nested} (path : RunPath runs outermost above action)
      (follows : runs action nested) : RunPath runs outermost (above ++ [action]) nested

/-- Conditions on the steps of runs, for a relation that holds while some actions run, the
outermost first, and for one that holds before the last of them has its frame. -/
structure Upholding (interpreter : Interpreter H) (asks : Action → Call H → Prop)
    (runs : Action → Action → Prop) (outermost : Action)
    (begun during : List Action → Machine H → List (Event H) → Option (Machine H) → Prop) : Prop where
  progressing (path : List Action) : Progressing (during path)
  logged (path : List Action) (entry : LogEntry) (spans : List Span) (machine : Machine H) :
    during path machine [.logged entry spans] (some machine)
  lookedUp (path : List Action) (name : Name) (found : Bool) (machine : Machine H) :
    during path machine [.lookedUp name found] (some machine)
  admits {above : List Action} {action : Action} (spans : List Span) (item? : Option H.Item)
    (guard : Guard) : RunPath runs outermost above action →
    ({ interpreter with spans }.admits action item? guard).Keeps
      fun before events after => during (above ++ [action]) before events (some after)
  answer {above : List Action} {action : Action} {call : Call H} (spans : List Span) :
    RunPath runs outermost above action → asks action call →
    ({ interpreter with spans }.answer call).Keeps
      fun before events after => during (above ++ [action]) before events (some after)
  ground {above : List Action} {action : Action} : RunPath runs outermost above action →
    Framing (begun (above ++ [action])) (during (above ++ [action]))
      (Binding.push interpreter.evaluator .interpreter (interpreter.groundSpec action))
  target {above : List Action} {action : Action} : RunPath runs outermost above action →
    Framing (during (above ++ [action])) (during (above ++ [action]))
      (Binding.push interpreter.evaluator .interpreter (interpreter.targetSpec action))
  element (path : List Action) (index : Nat) :
    Framing (during path) (during path) (Binding.pushElement .interpreter index)
  execution {path : List Action} {machine : Machine H} {events : List (Event H)}
    {after? : Option (Machine H)} (action : Action) (overridden? : Option H.Item)
    (result : Except ActionError Unit) : during path machine events after? →
    during path machine (.dispatched action overridden? machine.stack.current ::
      (events ++ closing (fun _ => [.returned action result]) after?)) after?
  level {above : List Action} {action : Action} {machine : Machine H} {events : List (Event H)}
    {after? : Option (Machine H)} (result : Except ActionError Unit) :
    RunPath runs outermost above action → begun (above ++ [action]) machine events after? →
    during above machine (.entered action ::
      (events ++ closing (fun _ => [.left action result]) after?)) after?

namespace Interpreter

def HandlersKeepTo (interpreter : Interpreter H) (asks : Action → Call H → Prop)
    (runs : Action → Action → Prop) : Prop :=
  ∀ action overridden? handler, interpreter.handlerFor action.name = some handler →
    (handler (interpreter.dispatch action overridden?)).Uses (asks action) ∧
      (handler (interpreter.dispatch action overridden?)).Runs (runs action)

section
variable {interpreter : Interpreter H} {enter : Act H ε Unit} {body : Watch H ε α} {machine : Machine H}

theorem underWatchedError {error : ε} (refused : (enter machine).result = .error error) :
    interpreter.under enter body machine =
      ⟨some (.error error, (enter machine).machine), (enter machine).events⟩ :=
  Watch.bindError (congrArg (fun result => some (result, (enter machine).machine)) refused)

theorem underWatchedOk (entered : (enter machine).result = .ok ()) :
    interpreter.under enter body machine =
      (let rest := Steps.ensuring body (fun _ => Binding.pop .interpreter interpreter.spans)
        (enter machine).machine
      { rest with events := (enter machine).events ++ rest.events }) :=
  Watch.bindOk (congrArg (fun result => some (result, (enter machine).machine)) entered)

end

theorem underUpheld (interpreter : Interpreter H) {enter : Act H BindingError Unit}
    {outside inside : Machine H → List (Event H) → Option (Machine H) → Prop}
    (framing : Framing outside inside enter) (change : BindingError → ε) {body : Watch H ε Unit}
    (kept : body.Keeps inside) : (interpreter.under (enter.mapError change) body).Keeps outside := by
  intro machine
  cases ended : (enter machine).result with
  | error error =>
    have refused : (enter.mapError change machine).result = .error (change error) :=
      congrArg (Except.mapError change) ended
    rw [underWatchedError refused]
    exact framing.refused ended
  | ok value =>
    have ensured := Watch.keepsEnsuring (fun inner events after? => inner = (enter machine).machine →
        outside machine ((enter machine).events ++ events) after?)
      (fun _ => Binding.pop .interpreter interpreter.spans) kept (fun _ _ => rfl) ?_
    · have entered : (enter.mapError change machine).result = .ok value :=
        congrArg (Except.mapError change) ended
      rw [underWatchedOk entered]
      exact ensured (enter machine).machine rfl
    · rintro _ _ events after? inside rfl
      exact framing.framed interpreter.spans ended inside

section
variable {interpreter : Interpreter H} {asks : Action → Call H → Prop}
  {runs : Action → Action → Prop} {outermost : Action}
  {begun during : List Action → Machine H → List (Event H) → Option (Machine H) → Prop}
  (upholding : Upholding interpreter asks runs outermost begun during)
  {above : List Action} {action : Action}
include upholding

theorem transportUpheld (reached : RunPath runs outermost above action) :
    Transport (S := Watch H) (T := Watch H) interpreter action
      fun watch _ => watch.Keeps (during (above ++ [action])) where
  toSequencing := Watch.sequencingKeeps (upholding.progressing _)
  act single := by
    cases single with
    | frame => exact (upholding.progressing _).still
    | executing spans => exact upholding.logged _ .executing spans
    | done spans => exact upholding.logged _ .done spans
    | lookedUp found => exact upholding.lookedUp _ action.name found
    | admits spans item? guard => exact upholding.admits spans item? guard reached
  target _ kept := underUpheld _ (upholding.target reached) _ kept
  element _ index kept := underUpheld _ (upholding.element _ index) _ kept
  execution overridden? kept := by
    have ensured := Watch.keepsEnsuring (fun machine events after? => during (above ++ [action]) machine
        (.dispatched action overridden? machine.stack.current :: events) after?)
      (fun result => Act.record (.returned action result)) kept (fun _ _ => rfl)
      fun result machine events after? inside => by
        simpa [Act.record] using upholding.execution action overridden? result inside
    exact ensured

theorem runUpheld (handlers : interpreter.HandlersKeepTo asks runs) (fuel : Nat) (spans : List Span)
    (reached : RunPath runs outermost above action) :
    (runWatched fuel { interpreter with spans } action).Keeps (during above) := by
  -- On the fuel, of which a handler has one less for the actions it runs, further down the path.
  induction fuel generalizing spans above action with
  | zero => exact (upholding.progressing above).spent
  | succ fuel ih =>
    have progressing := upholding.progressing (above ++ [action])
    have transport := transportUpheld upholding reached
    have performed (spans : List Span) (overridden? : Option H.Item) (handler : Handler H)
        (found : interpreter.handlerFor action.name = some handler) :
        ({ interpreter with spans }.perform (runWatched fuel { interpreter with spans })
          (handler (interpreter.dispatch action overridden?))).Keeps (during (above ++ [action])) := by
      obtain ⟨uses, follows⟩ := handlers action overridden? handler found
      let run := runWatched fuel { interpreter with spans }
      exact transport.perform run run
        (fun _ asked => Watch.keepsOfAct (upholding.answer spans reached asked))
        (fun nested follows => ih spans (.nested reached follows)) uses follows
    have grounded := transport.grounded (runWatched fuel) (runWatched fuel) performed 0
      (fun _ _ => progressing.spent) spans (fuel + 1)
    have body := underUpheld { interpreter with spans } (upholding.ground reached)
      (fun error => inPass none (.binding error)) grounded
    have ensured := Watch.keepsEnsuring
      (fun machine events after? => during above machine (.entered action :: events) after?)
      (fun result => Act.record (.left action result))
      (Watch.keepsMapError body fun error => error.2.within action error.1) (fun _ _ => rfl)
      fun result machine events after? inside => by
        simpa [Act.record] using upholding.level result reached inside
    exact ensured

end
end Interpreter

theorem Counting.handlersKeepTo {asks : Action → Call host → Prop} {runs : Action → Action → Prop}
    (looks : ∀ action, asks action .state)
    (below : ∀ action, ∀ nested ∈ action.children, runs action nested) :
    interpreter.HandlersKeepTo asks runs := by
  intro action overridden? handler found
  refine ⟨handlersUse (looks action) found _, ?_⟩
  rcases handlerCases found with rfl | rfl
  · exact Program.runsRunAll (below action)
  · intro answer
    cases answer with
    | error error => trivial
    | ok count =>
      change (checkCount count).Runs _
      unfold checkCount
      split <;> trivial

end ActionTree

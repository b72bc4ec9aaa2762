import ActionTree.Proofs.Balance
import ActionTree.Proofs.Tracing
import ActionTree.Proofs.Verdicts

/-! The log against the outcome of a run, for handlers that hand on failures. A run that ends well
has closed every execution it began. One that fails has left one open in each action of the error's
trace, but for the innermost if that broke off before the look-up of its handler. -/
namespace ActionTree
open Binding (Stack)
open Course
open Interpreter (PlacedError placed)
variable {H : Host}

inductive Propagated : Except ActionError Unit → List (Except ActionError Unit) → Prop where
  | well {ran} (fine : ∀ result ∈ ran, result = .ok ()) : Propagated (.ok ()) ran
  | own {error ran} (bare : error.Bare) (fine : ∀ result ∈ ran, result = .ok ()) :
      Propagated (.error error) ran
  | relayed {error early late} (before : ∀ result ∈ early, result = .ok ())
      (after : ∀ result ∈ late, result = .ok ()) :
      Propagated (.error error) (early ++ .error error :: late)

theorem Propagated.next {result : Except ActionError Unit} {ran : List (Except ActionError Unit)}
    (propagated : Propagated result ran) : Propagated result (.ok () :: ran) := by
  cases propagated with
  | well fine => exact .well (List.forall_mem_cons.mpr ⟨rfl, fine⟩)
  | own bare fine => exact .own bare (List.forall_mem_cons.mpr ⟨rfl, fine⟩)
  | relayed before after =>
    rw [← List.cons_append]
    exact .relayed (List.forall_mem_cons.mpr ⟨rfl, before⟩) after

def Handed (nested : Action) (inner : List (Event H)) (error : ActionError)
    (events : List (Event H)) : Prop :=
  ∃ early late, events = early ++ .entered nested :: (inner ++ [.left nested (.error error)]) ++ late ∧
    Paired (marks early) ∧ Paired (marks late)

/-- Where the innermost of the runs that fail breaks off, from the events inside the outermost. -/
inductive Located (interpreter : Interpreter H) :
    Action → Stage → ActionError → List (Event H) → Prop where
  | here {spans action stage cause inner} (bare : cause.Bare)
      (cutOff : CutOff { interpreter with spans } action (fun _ events => Paired (marks events))
        stage cause inner) :
      Located interpreter action stage cause inner
  | deeper {spans action nested stage cause position inner events}
      (cutOff : CutOff { interpreter with spans } action
        (fun _ => Handed nested inner (cause.within nested position)) .handler
        (cause.within nested position) events)
      (inside : Located interpreter nested stage cause inner) :
      Located interpreter action stage (cause.within nested position) events

inductive Told (interpreter : Interpreter H) (action : Action) :
    Except ActionError Unit → List (Event H) → Prop where
  | well {inner} (paired : Paired (marks inner)) : Told interpreter action (.ok ()) inner
  | broken {stage cause position inner} (located : Located interpreter action stage cause inner) :
      Told interpreter action (.error (cause.within action position)) inner

inductive Logged (interpreter : Interpreter H) (action : Action) :
    Except ActionError Unit → List (Event H) → Prop where
  | logged {result inner} (nested : Nested (fun _ _ _ => True) inner)
      (told : Told interpreter action result inner) :
      Logged interpreter action result (.entered action :: (inner ++ [.left action result]))

inductive Calls (run : Action → Except ActionError Unit → List (Event H) → Prop) :
    List (Except ActionError Unit) → List (Event H) → Prop where
  | nil : Calls run [] []
  | event {event ran rest} (single : event.Single) (unmarked : event.marks = false)
      (more : Calls run ran rest) : Calls run ran (event :: rest)
  | run {action result ran events rest} (here : run action result events) (more : Calls run ran rest) :
      Calls run (result :: ran) (events ++ rest)

namespace Calls
variable {interpreter : Interpreter H} {run : Action → Except ActionError Unit → List (Event H) → Prop}
  {ran : List (Except ActionError Unit)} {events : List (Event H)}

theorem after {before : List (Event H)} (singles : ∀ event ∈ before, event.Single)
    (unmarked : ∀ event ∈ before, event.marks = false) (calls : Calls run ran events) :
    Calls run ran (before ++ events) := by
  induction before with
  | nil => exact calls
  | cons event rest ih =>
    obtain ⟨single, singles⟩ := List.forall_mem_cons.mp singles
    obtain ⟨here, unmarked⟩ := List.forall_mem_cons.mp unmarked
    exact .event single here (ih singles unmarked)

theorem ofPerformed {α : Type} {program : Program H α} {result : Except ActionError α}
    (performed : Performed interpreter run program result events) : ∃ ran, Calls run ran events := by
  induction performed with
  | done => exact ⟨[], .nil⟩
  | fail => exact ⟨[], .nil⟩
  | @ask call _ _ _ machine _ ih =>
    obtain ⟨ran, calls⟩ := ih
    exact ⟨ran, calls.after (interpreter.answerSingle call machine)
      (interpreter.unmarkedAnswer call machine)⟩
  | @run _ _ ended _ _ _ here _ ih =>
    obtain ⟨ran, calls⟩ := ih
    exact ⟨ended :: ran, .run here calls⟩

theorem results (calls : Calls (Logged interpreter) ran events) : results events = ran := by
  induction calls with
  | nil => rfl
  | event single _ _ ih => rw [resultsCons single.still, ih]
  | run here _ ih =>
    cases here with
    | logged nested told =>
      rw [List.cons_append, List.append_assoc]
      exact (resultsLevel nested _ _ _).trans (congrArg _ ih)

theorem paired (calls : Calls (Logged interpreter) ran events)
    (fine : ∀ result ∈ ran, result = .ok ()) : Paired (marks events) := by
  induction calls with
  | nil => exact .nil
  | event single unmarked _ ih =>
    rw [marksCons unmarked]
    exact ih fine
  | run here _ ih =>
    obtain ⟨rfl, later⟩ := List.forall_mem_cons.mp fine
    cases here with
    | logged nested told =>
      cases told with
      | well inside =>
        rw [marksAppend, marksLevel]
        exact inside.append (ih later)

theorem handed {early late : List (Except ActionError Unit)} {error : ActionError}
    (calls : Calls (Logged interpreter) ran events) (same : ran = early ++ .error error :: late)
    (before : ∀ result ∈ early, result = .ok ()) (after : ∀ result ∈ late, result = .ok ()) :
    ∃ nested inner, Handed nested inner error events ∧ Told interpreter nested (.error error) inner := by
  induction calls generalizing early with
  | nil => cases early <;> cases same
  | @event event _ _ single unmarked _ ih =>
    obtain ⟨nested, inner, ⟨first, last, rfl, paired, others⟩, told⟩ := ih same before
    refine ⟨nested, inner, ⟨event :: first, last, rfl, ?_, others⟩, told⟩
    rwa [marksCons unmarked]
  | @run action _ _ _ rest here more ih =>
    cases early with
    | nil =>
      cases same
      cases here with
      | @logged inner nested told =>
        exact ⟨action, inner, ⟨[], rest, by simp, .nil, more.paired after⟩, told⟩
    | cons result early =>
      obtain ⟨rfl, earlier⟩ := List.forall_mem_cons.mp before
      obtain ⟨rfl, tail⟩ := List.cons.inj same
      obtain ⟨nested, inner, ⟨first, last, rfl, paired, others⟩, told⟩ := ih tail earlier
      cases here with
      | @logged done _ well =>
        cases well with
        | well inside =>
          refine ⟨nested, inner, ⟨.entered action :: (done ++ [.left action (.ok ())]) ++ first, last,
            by simp, ?_, others⟩, told⟩
          rw [marksAppend, marksLevel]
          exact inside.append paired

end Calls

section
variable {interpreter : Interpreter H} {action : Action} {stage : Stage} {cause : ActionError}
  {events : List (Event H)}

theorem checkBare {stack : Stack H.Item} {item? : Option H.Item} {guard : Guard}
    (check : Level.Check interpreter action stack item? guard (.error cause) events) : cause.Bare := by
  cases check <;> trivial

theorem Course.Cut.unclosed {execution : Except ActionError Unit → List (Event H) → Prop}
    {depth : Nat} (alone : stage = .handler ∨ depth = 0)
    (inside : ∀ {events}, execution (.error cause) events → Unclosed depth (marks events))
    (cut : Cut interpreter action execution stage cause events) :
    Unclosed (stage.unclosed (depth + 1)) (marks events) := by
  cases cut with
  | handler opened executed =>
    rw [marksAppend, marksAppend, marksNone (requestedUnmarked opened), marksExecution]
    exact .inside .nil (inside executed)
  | ground refused =>
    cases alone.resolve_left nofun
    rw [marksNone (requestedUnmarked refused)]
    exact .none .nil
  | element =>
    cases alone.resolve_left nofun
    exact .none .nil
  | guard check =>
    cases alone.resolve_left nofun
    rw [marksNone (checkUnmarked check)]
    exact .none .nil
  | lookup unknown =>
    cases alone.resolve_left nofun
    exact .begun .nil .nil
  | target refused =>
    cases alone.resolve_left nofun
    rw [marksBefore (requestedUnmarked refused)]
    exact .begun .nil .nil

theorem Course.CutOff.unclosed {execution : Except ActionError Unit → List (Event H) → Prop}
    {depth : Nat} (alone : stage = .handler ∨ depth = 0)
    (inside : ∀ {events}, execution (.error cause) events → Unclosed depth (marks events))
    (cutOff : CutOff interpreter action execution stage cause events) :
    Unclosed (stage.unclosed (depth + 1)) (marks events) := by
  cases cutOff with
  | cutOff paired cut unwinding =>
    rw [marksAppend, marksBefore fun event member => (unwinding event member).unmarked]
    exact (cut.unclosed alone inside).after paired

theorem Located.unclosed (located : Located interpreter action stage cause events) :
    Unclosed (stage.unclosed (cause.trace.length + 1)) (marks events) := by
  induction located with
  | here bare cutOff =>
    rw [ActionError.traceLevels, (ActionError.bareAlone bare).1]
    exact cutOff.unclosed (.inr rfl) .none
  | @deeper _ _ nested stage cause position inner _ cutOff _ ih =>
    have within {events} (handed : Handed nested inner (cause.within nested position) events) :
        Unclosed (stage.unclosed (cause.trace.length + 1)) (marks events) := by
      obtain ⟨early, late, rfl, before, after⟩ := handed
      rw [marksAppend, marksAppend, marksLevel]
      exact (ih.after before).followed after
    -- The execution that is open here comes on top of those inside the run it fails with.
    have deeper : stage.unclosed (cause.trace.length + 1 + 1) =
        stage.unclosed (cause.trace.length + 1) + 1 := by cases stage <;> rfl
    exact deeper ▸ cutOff.unclosed (.inl rfl) within

end
namespace Interpreter
variable {interpreter : Interpreter H}

/-- Each execution of a handler ends well with all runs of actions in it. If not, it fails with an
error of its own, or with the one run that failed. -/
def HandlersPropagate (interpreter : Interpreter H) : Prop :=
  ∀ fuel action, Executions (runAction fuel) interpreter action fun run =>
    ∀ machine outcome, run machine = some outcome → Propagated outcome.result (results outcome.events)

def Propagates (interpreter : Interpreter H) (result : Except ActionError Unit)
    (events : List (Event H)) : Prop :=
  Calls (Logged interpreter) (results events) events ∧ Propagated result (results events)

theorem locatedOfCutOff {spans : List Span} {action : Action} {stage : Stage} {cause : ActionError}
    {events : List (Event H)} (cutOff : CutOff { interpreter with spans } action
      interpreter.Propagates stage cause events) :
    ∃ innermost, Located interpreter action innermost cause events := by
  cases cutOff with
  | @cutOff before broken after paired cut unwinding =>
    have here {stage cause broken} (bare : cause.Bare) (cut : Cut { interpreter with spans } action
        (fun _ events => Paired (marks events)) stage cause broken) :
        ∃ innermost, Located interpreter action innermost cause (before ++ (broken ++ after)) :=
      ⟨stage, .here bare (.cutOff paired cut unwinding)⟩
    cases cut with
    | ground refused => exact here trivial (.ground refused)
    | element => exact here trivial .element
    | guard check => exact here (checkBare check) (.guard check)
    | lookup unknown => exact here trivial (.lookup unknown)
    | target refused => exact here trivial (.target refused)
    | @handler _ _ _ _ _ inside opened executed =>
      obtain ⟨calls, propagated⟩ := executed
      generalize results inside = ran at calls propagated
      cases propagated with
      | own bare fine => exact here bare (.handler opened (calls.paired fine))
      | relayed before after =>
        obtain ⟨nested, inner, handed, told⟩ := calls.handed rfl before after
        cases told with
        | broken located =>
          exact ⟨_, .deeper (.cutOff paired (.handler opened handed) unwinding) located⟩

theorem toldOfBalanced {spans : List Span} {action : Action} {result : Except PlacedError Unit}
    {events : List (Event H)} (balanced : Balanced { interpreter with spans } action
      interpreter.Propagates Prod.snd result events) :
    Told interpreter action (placed action result) events := by
  cases balanced with
  | well paired => exact .well paired
  | broken cutOff =>
    obtain ⟨innermost, located⟩ := locatedOfCutOff cutOff
    exact .broken located

theorem Propagates.paired {events : List (Event H)}
    (propagates : interpreter.Propagates (.ok ()) events) : Paired (marks events) := by
  obtain ⟨calls, propagated⟩ := propagates
  cases propagated with
  | well fine => exact calls.paired fine

theorem runActionLogged (propagate : interpreter.HandlersPropagate) (fuel : Nat) (spans : List Span)
    (action : Action) (stack : Stack H.Item) :
    (runAction fuel { interpreter with spans } action).Follows stack (Logged interpreter action) := by
  -- On the fuel: what is told of executions comes from runs that have less of it.
  induction fuel generalizing spans action stack with
  | zero => intro machine outcome upon ended; cases ended
  | succ fuel ih =>
    intro machine outcome upon ended
    rw [runActionEq] at ended
    obtain ⟨body, ran, rfl⟩ := Option.map_eq_some_iff.mp ended
    have executions : ExecutionsFollow (runAction fuel) { interpreter with spans } action
        fun _ _ => interpreter.Propagates := by
      intro spans overridden? handler found stack machine outcome upon ended
      have performed := performFollows _ (ih spans) _ stack machine outcome upon ended
      obtain ⟨ran, calls⟩ := Calls.ofPerformed performed
      refine ⟨?_, propagate fuel action spans overridden? handler found machine outcome ended⟩
      rwa [calls.results]
    have nested : Executions (runAction fuel) interpreter action
        (·.Keeps fun _ events _ => Nested (fun _ _ _ => True) events) :=
      fun spans _ _ _ => performNested _ (runActionBrackets interpreter fuel spans) _
    have balanced := bodyBalanced Propagates.paired (runBodyFollows executions _ _ machine body rfl ran)
    exact .logged (bodyKeeps nestedInvariant nested spans _ machine body ran) (toldOfBalanced balanced)

theorem logsMirrored (propagate : interpreter.HandlersPropagate) {fuel : Nat} {action : Action}
    {machine : Machine H} {outcome : Outcome H ActionError Unit}
    (ended : interpreter.runAction fuel action machine = some outcome) :
    (outcome.result = .ok () → Paired (marks outcome.events)) ∧
      (∀ error, outcome.result = .error error → ∃ stage cause position inner,
        error = cause.within action position ∧
        outcome.events = .entered action :: (inner ++ [.left action (.error error)]) ∧
        Located interpreter action stage cause inner ∧
        Unclosed (stage.unclosed error.trace.length) (marks outcome.events) ∧
        outcome.events.countP Event.begins =
          outcome.events.countP Event.finishes + stage.unclosed error.trace.length) ∧
      Nested interpreter.Processes outcome.events := by
  have processes := runActionProcesses interpreter fuel interpreter.spans action machine outcome ended
  obtain ⟨result, reached, events⟩ := outcome
  have logged : Logged interpreter action result events :=
    runActionLogged propagate fuel interpreter.spans action machine.stack machine _ rfl ended
  cases logged with
  | @logged inner nested told =>
    cases told with
    | well paired =>
      refine ⟨fun _ => ?_, nofun, processes⟩
      change Paired (marks (.entered action :: (inner ++ [.left action (.ok ())])))
      rwa [marksLevel]
    | @broken stage cause position _ located =>
      have unclosed := located.unclosed
      rw [← marksLevel action (.error (cause.within action position))] at unclosed
      refine ⟨nofun, ?_, processes⟩
      intro error failed
      cases failed
      exact ⟨stage, cause, position, inner, rfl, rfl, located, unclosed, unclosed.countsAll⟩

theorem inTurnPropagated {actions : List Action} {result : Except ActionError Unit}
    {events : List (Event H)} (turn : InTurn Whole actions result events) :
    Propagated result (results events) := by
  induction turn with
  | none => exact .well (List.forall_mem_nil _)
  | @failed _ _ error events failed =>
    have only : results (events ++ []) = [] ++ [.error error] := resultsWhole failed []
    rw [List.append_nil] at only
    rw [only]
    exact .relayed (List.forall_mem_nil _) (List.forall_mem_nil _)
  | next went more ih =>
    rw [resultsWhole went]
    exact ih.next

theorem runNestedPropagates (fuel : Nat) (interpreter : Interpreter H) (dispatch : Dispatch H)
    (stack : Stack H.Item) :
    (interpreter.perform (runAction fuel interpreter) dispatch.runNested).Follows stack
      fun result events => Propagated result (results events) :=
  Run.followsMono (performFollows interpreter (runActionWhole fuel interpreter) _ stack)
    fun _ _ performed => inTurnPropagated (performedInTurn performed)

end Interpreter

theorem Counting.watchPropagated {run : Action → Except ActionError Unit → List (Event host) → Prop}
    {interpreter : Interpreter host} {result : Except ActionError Unit} {events : List (Event host)}
    (performed : Performed interpreter run watch result events) :
    Propagated result (results events) := by
  cases performed with
  | ask machine more =>
    change Performed _ _ (checkCount machine.state) _ _ at more
    unfold checkCount at more
    split at more
    · cases more
      exact .own trivial (List.forall_mem_nil _)
    · cases more
      exact .well (List.forall_mem_nil _)

theorem Counting.handlersPropagate : interpreter.HandlersPropagate := by
  intro fuel action spans overridden? handler found machine outcome ended
  rcases handlerCases found with rfl | rfl
  · exact Interpreter.runNestedPropagates fuel _ _ machine.stack machine outcome rfl ended
  · exact watchPropagated (Interpreter.performFollows _ (Interpreter.runActionWhole fuel _) watch
      machine.stack machine outcome rfl ended)

theorem Interpreter.logsMirroredInBlock : ∃ outcome error,
    Counting.interpreter.runAction 4 Counting.block Counting.machine = some outcome ∧
      outcome.result = .error error ∧ error.trace = ["block", "watch"] ∧
      (∃ stage cause inner, Located Counting.interpreter Counting.block stage cause inner ∧
        Unclosed (stage.unclosed 2) (marks outcome.events)) ∧
      outcome.events.countP Event.begins = outcome.events.countP Event.finishes + 2 ∧
      Nested Counting.interpreter.Processes outcome.events := by
  have fails : (Counting.interpreter.runAction 4 Counting.block Counting.machine).map (fun outcome =>
      ((Counting.failure? outcome).map ActionError.trace,
        outcome.events.countP Event.begins, outcome.events.countP Event.finishes)) =
      some (some ["block", "watch"], 5, 3) := by decide +kernel
  obtain ⟨outcome, ended, seen⟩ := Option.map_eq_some_iff.mp fails
  simp only [Prod.mk.injEq, Option.map_eq_some_iff] at seen
  obtain ⟨⟨error, failure, trace⟩, begun, finished⟩ := seen
  have failed := Counting.failureEq failure
  obtain ⟨_, broken, processes⟩ := logsMirrored Counting.handlersPropagate ended
  obtain ⟨stage, cause, position, inner, _, _, located, unclosed, _⟩ := broken error failed
  rw [trace] at unclosed
  exact ⟨outcome, error, ended, failed, trace, ⟨stage, cause, inner, located, unclosed⟩,
    by rw [begun, finished], processes⟩

end ActionTree

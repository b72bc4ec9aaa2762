import ActionTree.Proofs.Failure
import ActionTree.Proofs.Following
import ActionTree.Proofs.Position

/-! The levels of an error are the actions that were running when it arose. Handlers may do as they
like, as long as one that fails does so with an error of its own or with that of an action it ran. -/
namespace ActionTree
open Course
variable {H : Host}

namespace ActionError

/-- Without a level of any action. -/
def Bare : ActionError → Prop
  | inAction _ _ _ _ => False
  | _ => True

def levels : ActionError → List (String × Option Location)
  | inAction name location? _ error => (name, location?) :: error.levels
  | _ => []

theorem traceLevels (error : ActionError) : error.trace = error.levels.map Prod.fst := by
  induction error with
  | inAction name location? position error ih => simp [trace, levels, ih]
  | _ => rfl

theorem bareAlone {error : ActionError} (bare : error.Bare) :
    error.levels = [] ∧ error.rootCause = error := by
  cases error with
  | inAction name location? position error => exact bare.elim
  | _ => exact ⟨rfl, rfl⟩

end ActionError

def Action.level (action : Action) : String × Option Location :=
  (action.name.text, action.location?)

/-- The actions that are running after an event, the outermost first. -/
def Event.track (running : List Action) : Event H → List Action
  | .entered action => running ++ [action]
  | .left _ _ => running.dropLast
  | _ => running

def runningAfter (events : List (Event H)) : List Action := events.foldl Event.track []

/-- After these events the same actions are running as before. -/
def Even (events : List (Event H)) : Prop :=
  ∀ running, events.foldl Event.track running = running

namespace Even

theorem append {before after : List (Event H)} (first : Even before) (second : Even after) :
    Even (before ++ after) := by
  intro running
  rw [List.foldl_append, first, second]

theorem cons {event : Event H} {events : List (Event H)}
    (here : ∀ running, event.track running = running) (rest : Even events) :
    Even (event :: events) := by
  intro running
  rw [List.foldl_cons, here, rest]

theorem level {action : Action} {inner : List (Event H)} {result : Except ActionError Unit}
    (inside : Even inner) : Even (.entered action :: (inner ++ [.left action result])) := by
  intro running
  rw [List.foldl_cons, List.foldl_append, inside]
  exact List.dropLast_concat

end Even

/-- Results of the runs of actions that are in no other run but the `depth` that are going on. -/
def resultsFrom : (depth : Nat) → List (Event H) → List (Except ActionError Unit)
  | _, [] => []
  | depth, .entered _ :: rest => resultsFrom (depth + 1) rest
  | 1, .left _ result :: rest => result :: resultsFrom 0 rest
  | depth + 2, .left _ _ :: rest => resultsFrom (depth + 1) rest
  | depth, _ :: rest => resultsFrom depth rest

def results (events : List (Event H)) : List (Except ActionError Unit) := resultsFrom 0 events

theorem Event.Single.still {event : Event H} (single : event.Single) (running : List Action) :
    event.track running = running := by
  cases event with
  | entered action => exact single.elim
  | left action result => exact single.elim
  | _ => rfl

theorem Event.Opens.still {event : Event H} {frame : Binding.Frame H.Item} (opens : event.Opens frame)
    (running : List Action) : event.track running = running := by
  cases event with
  | entered action => exact opens.elim
  | left action result => exact opens.elim
  | _ => rfl

theorem resultsCons {event : Event H} (still : ∀ running, event.track running = running)
    (rest : List (Event H)) : results (event :: rest) = results rest := by
  cases event with
  | entered action => exact absurd (still []) nofun
  | left action result => exact absurd (still [action]) nofun
  | _ => rfl

section
variable {P : Action → List (Event H) → Except ActionError Unit → Prop} {events : List (Event H)}

theorem Nested.even (nested : Nested P events) : Even events := by
  induction nested with
  | nil => exact fun _ => rfl
  | single single _ ih => exact .cons single.still ih
  | frame opens _ _ inside more =>
    exact .cons opens.still (inside.append (.cons (fun _ => rfl) more))
  | execution _ _ inside more =>
    exact .cons (fun _ => rfl) (inside.append (.cons (fun _ => rfl) more))
  | level _ _ _ inside more => simpa using inside.level.append more

theorem resultsFromNested (nested : Nested P events) (depth : Nat) (rest : List (Event H)) :
    resultsFrom (depth + 1) (events ++ rest) = resultsFrom (depth + 1) rest := by
  -- At every depth, as a run inside is left one level deeper than it began.
  induction nested generalizing depth rest with
  | nil => rfl
  | @single event _ single _ ih => cases event <;> simp_all [Event.Single, resultsFrom]
  | @frame event frame inner closing tail opens _ _ inside more =>
    cases event <;> simp_all [Event.Opens, resultsFrom]
  | execution _ _ inside more => simp [resultsFrom, inside, more]
  | level _ _ _ inside more => simp [resultsFrom, inside, more]

theorem resultsLevel (nested : Nested P events) (action : Action) (result : Except ActionError Unit)
    (rest : List (Event H)) :
    results (.entered action :: (events ++ .left action result :: rest)) = result :: results rest := by
  change resultsFrom 1 (events ++ _) = _
  rw [resultsFromNested nested]
  rfl

theorem resultsAppend (nested : Nested P events) (rest : List (Event H)) :
    results (events ++ rest) = results events ++ results rest := by
  induction nested generalizing rest with
  | nil => rfl
  | single single _ ih =>
    rw [List.cons_append, resultsCons single.still, resultsCons single.still, ih]
  | frame opens _ _ inside more =>
    rw [List.cons_append, resultsCons opens.still, resultsCons opens.still, List.append_assoc, inside,
      inside, List.cons_append, resultsCons fun _ => rfl, resultsCons fun _ => rfl, more,
      List.append_assoc]
  | execution _ _ inside more =>
    rw [List.cons_append, resultsCons fun _ => rfl, resultsCons fun _ => rfl, List.append_assoc, inside,
      inside, List.cons_append, resultsCons fun _ => rfl, resultsCons fun _ => rfl, more,
      List.append_assoc]
  | level _ inside _ _ more =>
    rw [List.cons_append, List.append_assoc, List.cons_append, resultsLevel inside,
      resultsLevel inside, more, List.cons_append]

/-- There is a run that gave this result, after others that are over. -/
def Ran (P : Action → List (Event H) → Except ActionError Unit → Prop)
    (result : Except ActionError Unit) (events : List (Event H)) : Prop :=
  ∃ before nested inner after,
    events = before ++ .entered nested :: (inner ++ .left nested result :: after) ∧
      Even before ∧ P nested inner result

theorem Ran.after {result : Except ActionError Unit} {before : List (Event H)} (even : Even before)
    (ran : Ran P result events) : Ran P result (before ++ events) := by
  obtain ⟨early, nested, inner, late, rfl, others, described⟩ := ran
  exact ⟨before ++ early, nested, inner, late, by simp, even.append others, described⟩

theorem Ran.append {result : Except ActionError Unit} (ran : Ran P result events)
    (after : List (Event H)) : Ran P result (events ++ after) := by
  obtain ⟨early, nested, inner, late, rfl, others, described⟩ := ran
  exact ⟨early, nested, inner, late ++ after, by simp, others, described⟩

theorem Ran.around {opening closing : Event H} {inner rest : List (Event H)}
    {result : Except ActionError Unit} (opened : ∀ running, opening.track running = running)
    (closed : ∀ running, closing.track running = running) (inside : Nested P inner)
    (within : result ∈ results inner → Ran P result inner)
    (beyond : result ∈ results rest → Ran P result rest)
    (member : result ∈ results (opening :: (inner ++ closing :: rest))) :
    Ran P result (opening :: (inner ++ closing :: rest)) := by
  have start : Even [opening] := .cons opened fun _ => rfl
  have bracket : Even (inner ++ [closing]) := inside.even.append (.cons closed fun _ => rfl)
  rw [resultsCons opened, resultsAppend inside, resultsCons closed] at member
  rcases List.mem_append.mp member with early | late
  · exact ((within early).append (closing :: rest)).after start
  · have ran := ((beyond late).after bracket).after start
    rwa [List.append_assoc] at ran

theorem Nested.ran (nested : Nested P events) {result : Except ActionError Unit}
    (member : result ∈ results events) : Ran P result events := by
  induction nested with
  | nil => cases member
  | @single event rest single _ ih =>
    have even : Even [event] := .cons single.still fun _ => rfl
    rw [resultsCons single.still] at member
    exact (ih member).after even
  | frame opens inside _ within beyond =>
    exact .around opens.still (fun _ => rfl) inside within beyond member
  | execution inside _ within beyond =>
    exact .around (fun _ => rfl) (fun _ => rfl) inside within beyond member
  | @level action inner ended rest described inside _ _ beyond =>
    rw [resultsLevel inside] at member
    rcases List.mem_cons.mp member with rfl | late
    · exact ⟨[], action, inner, rest, rfl, fun _ => rfl, described⟩
    · have even : Even (.entered action :: (inner ++ [.left action ended])) := inside.even.level
      simpa using (beyond late).after even

end

/-- Shows how an error arises that the run of the action, or its handler, comes up with. -/
inductive Raised (action : Action) : ActionError → Event H → Prop where
  | guard {request error} :
      Raised action (.evaluation error) (.evaluated .guard .items request (.error error))
  | undecided {guard expression request} {items : List H.Item}
      (present : action.guard? guard = some expression)
      (undecided : items.head?.bind H.truth? = none) :
      Raised action (.notBoolean guard expression) (.evaluated .guard .items request (.ok items))
  | unknown : Raised action (.unknownAction action.name) (.lookedUp action.name false)
  | unanswered {request error} :
      Raised action (.binding (.evaluation error)) (.evaluated .binding .items request (.error error))
  | unbound {spec error depth} :
      Raised action (.binding error) (.pushed .interpreter spec (.error error) depth)
  | missing {index error depth} :
      Raised action (.binding error) (.iterated .interpreter index (.error error) depth)
  | handler {error} (bare : error.Bare) : Raised action error (.returned action (.error error))

theorem Raised.bare {action : Action} {cause : ActionError} {event : Event H}
    (raised : Raised action cause event) : cause.Bare := by
  cases raised with
  | handler bare => exact bare
  | _ => trivial

/-- The cause of a failure, from the events inside the run of the action: raised there, or handed
on from a run inside this one. -/
inductive Traced : Action → List (Event H) → ActionError → Prop where
  | here {action before event after cause} (even : Even before) (raised : Raised action cause event) :
      Traced action (before ++ event :: after) cause
  | deeper {action before nested inner after cause position} (even : Even before)
      (inside : Traced nested inner cause) :
      Traced action (before ++ .entered nested ::
          (inner ++ .left nested (.error (cause.within nested position)) :: after))
        (cause.within nested position)

/-- A failure adds the level of the action to a cause that is traced among the events. -/
def FailsTraced (action : Action) (events : List (Event H)) (result : Except ActionError Unit) : Prop :=
  ∀ error, result = .error error → ∃ cause position,
    error = cause.within action position ∧ Traced action events cause

/-- A failure is bare, or is that of a run among the events. -/
def Relayed (result : Except ActionError Unit) (events : List (Event H)) : Prop :=
  ∀ error, result = .error error → error.Bare ∨ .error error ∈ results events

theorem Course.Smooth.even {action : Action} {execution : Except ActionError Unit → List (Event H) → Prop}
    {events : List (Event H)} (inside : ∀ result events, execution result events → Even events)
    (smooth : Smooth action execution events) : Even events := by
  induction smooth with
  | nil => exact fun _ => rfl
  | calm calm _ ih =>
    refine .cons (fun running => ?_) ih
    cases calm <;> rfl
  | executed executed _ ih =>
    exact .cons (fun _ => rfl) ((inside _ _ executed).append (.cons (fun _ => rfl) ih))

theorem tracedOfBroken {action : Action} {error : Interpreter.PlacedError} {events : List (Event H)}
    (went : Went action (fun result events => Relayed result events ∧ Nested FailsTraced events)
      Prod.snd (.error error : Except _ Unit) events) : Traced action events error.2 := by
  cases went with
  | @broken _ before _ after smooth here unwinding =>
    have even : Even before := smooth.even fun _ _ executed => executed.2.even
    generalize error.2 = cause at here
    cases here with
    | guard => exact .here even .guard
    | undecided present undecided => exact .here even (.undecided present undecided)
    | unknown => exact .here even .unknown
    | unbound => exact .here even .unbound
    | unanswered => exact .here even .unanswered
    | missing => exact .here even .missing
    | @executed overridden? frame _ events executed =>
      obtain ⟨relayed, nested⟩ := executed
      have start : Even (before ++ [.dispatched action overridden? frame]) :=
        even.append fun _ => rfl
      -- The error of the handler is its own, or one that a run inside has been traced to.
      rcases relayed cause rfl with bare | member
      · have traced : Traced action (before ++ [.dispatched action overridden? frame] ++ events ++
            .returned action (.error cause) :: after) cause :=
          .here (start.append nested.even) (.handler bare)
        simpa using traced
      · obtain ⟨early, inside, inner, late, rfl, others, fails⟩ := nested.ran member
        obtain ⟨below, position, rfl, traced⟩ := fails cause rfl
        have traced : Traced action (before ++ [.dispatched action overridden? frame] ++ early ++
            .entered inside :: (inner ++ .left inside (.error (below.within inside position)) ::
              (late ++ .returned action (.error (below.within inside position)) :: after)))
            (below.within inside position) := .deeper (start.append others) traced
        simpa using traced

theorem Traced.path {action : Action} {events : List (Event H)} {cause : ActionError}
    (traced : Traced action events cause) : ∃ before event after running failing,
      events = before ++ event :: after ∧
        (∀ outer, before.foldl Event.track outer = outer ++ running) ∧
        cause.levels = running.map Action.level ∧
        (action :: running).getLast? = some failing ∧ Raised failing cause.rootCause event := by
  induction traced with
  | @here action before event after cause even raised =>
    obtain ⟨levels, alone⟩ := ActionError.bareAlone raised.bare
    refine ⟨before, event, after, [], action, rfl, ?_, levels, rfl, alone.symm ▸ raised⟩
    exact fun outer => (even outer).trans (List.append_nil outer).symm
  | @deeper action before nested inner after cause position even inside ih =>
    obtain ⟨early, event, late, running, failing, rfl, tracked, levels, last, raised⟩ := ih
    refine ⟨before ++ .entered nested :: early, event,
      late ++ .left nested (.error (cause.within nested position)) :: after, nested :: running,
      failing, by simp, fun outer => ?_, ?_, last, raised⟩
    · rw [List.foldl_append, even, List.foldl_cons, tracked]
      exact List.append_assoc ..
    · exact congrArg (nested.level :: ·) levels

/-- The levels of an error of the action are the actions that were running at an event, which
shows how the error arose in the innermost of them. -/
inductive FailurePath (action : Action) (error : ActionError) : List (Event H) → Prop where
  | path {before event after failing}
      (levels : error.levels = (runningAfter before).map Action.level)
      (trace : error.trace = (runningAfter before).map (·.name.text))
      (outermost : (runningAfter before).head? = some action)
      (innermost : (runningAfter before).getLast? = some failing)
      (raised : Raised failing error.rootCause event) :
      FailurePath action error (before ++ event :: after)

namespace Interpreter
variable {interpreter : Interpreter H}

/-- Each execution of a handler that fails does so with a bare error, or with that of an action
it ran. -/
def HandlersRelay (interpreter : Interpreter H) : Prop :=
  ∀ fuel action, Executions (runAction fuel) interpreter action fun run =>
    ∀ machine outcome, run machine = some outcome → Relayed outcome.result outcome.events

theorem bodyTraced (relay : interpreter.HandlersRelay) {fuel : Nat} {spans : List Span}
    {action : Action} (runs : ∀ spans nested, (runAction fuel { interpreter with spans } nested).Keeps
      fun _ events _ => Nested FailsTraced events)
    {machine : Machine H} {body : Outcome H PlacedError Unit}
    (ran : runBody (runAction fuel) { interpreter with spans } action (fuel + 1) machine = some body) :
    FailsTraced action body.events (placed action body.result) ∧ Nested FailsTraced body.events := by
  have nested : Executions (runAction fuel) interpreter action
      (·.Keeps fun _ events _ => Nested FailsTraced events) :=
    fun spans _ _ _ => performNested _ (runs spans) _
  have executions : ExecutionsFollow (runAction fuel) { interpreter with spans } action
      fun _ _ result events => Relayed result events ∧ Nested FailsTraced events := by
    intro spans overridden? handler found stack machine outcome _ ended
    exact ⟨relay fuel action spans overridden? handler found machine outcome ended,
      nested spans overridden? handler found machine outcome ended⟩
  have went := bodyWent (runBodyFollows executions _ _ machine body rfl ran)
  refine ⟨?_, bodyKeeps nestedInvariant nested spans _ machine body ran⟩
  intro error failed
  obtain ⟨position, cause, result, rfl⟩ := placedError failed
  rw [result] at went
  exact ⟨cause, position, rfl, tracedOfBroken went⟩

theorem runActionTraced (relay : interpreter.HandlersRelay) (fuel : Nat) (spans : List Span)
    (action : Action) : (runAction fuel { interpreter with spans } action).Keeps
      fun _ events _ => Nested FailsTraced events := by
  -- On the fuel: what handlers relay comes from runs that have less of it.
  induction fuel generalizing spans action with
  | zero => intro machine outcome ended; cases ended
  | succ fuel ih =>
    intro machine outcome ended
    rw [runActionEq] at ended
    obtain ⟨body, ran, rfl⟩ := Option.map_eq_some_iff.mp ended
    obtain ⟨fails, nested⟩ := bodyTraced relay ih ran
    exact .level fails nested .nil

theorem pathOfTraced {action : Action} {inner : List (Event H)} {cause : ActionError}
    (traced : Traced action inner cause) (position : LoopPosition) (result : Except ActionError Unit) :
    FailurePath action (cause.within action position)
      (.entered action :: (inner ++ [.left action result])) := by
  obtain ⟨before, event, after, running, failing, rfl, tracked, levels, last, raised⟩ := traced.path
  have active : runningAfter (.entered action :: before) = action :: running := tracked [action]
  have path : (cause.within action position).levels = (action :: running).map Action.level :=
    congrArg (action.level :: ·) levels
  have trace : (cause.within action position).trace = (action :: running).map (·.name.text) := by
    rw [ActionError.traceLevels, path, List.map_map]
    rfl
  rw [← active] at path trace last
  have whole : FailurePath action (cause.within action position)
      (.entered action :: before ++ event :: (after ++ [.left action result])) :=
    .path path trace (by rw [active]; rfl) last raised
  simpa using whole

theorem failureTraced (relay : interpreter.HandlersRelay) {fuel : Nat} {action : Action}
    {machine : Machine H} {outcome : Outcome H ActionError Unit}
    (ended : interpreter.runAction fuel action machine = some outcome) :
    ∃ inner, outcome.events = .entered action :: (inner ++ [.left action outcome.result]) ∧
      FailsTraced action inner outcome.result ∧ Nested FailsTraced inner ∧
      ∀ error, outcome.result = .error error → FailurePath action error outcome.events := by
  cases fuel with
  | zero => cases ended
  | succ fuel =>
    rw [runActionEq] at ended
    obtain ⟨body, ran, rfl⟩ := Option.map_eq_some_iff.mp ended
    obtain ⟨fails, nested⟩ := bodyTraced relay (runActionTraced relay fuel) ran
    refine ⟨body.events, rfl, fails, nested, ?_⟩
    intro error failed
    obtain ⟨cause, position, rfl, traced⟩ := fails error failed
    exact pathOfTraced traced position _

def Whole (action : Action) (result : Except ActionError Unit) (events : List (Event H)) : Prop :=
  ∃ inner, events = .entered action :: (inner ++ [.left action result]) ∧
    Nested (fun _ _ _ => True) inner

theorem runActionWhole (fuel : Nat) (interpreter : Interpreter H) (action : Action)
    (stack : Binding.Stack H.Item) : (runAction fuel interpreter action).Follows stack (Whole action) := by
  intro machine outcome _ ended
  cases fuel with
  | zero => cases ended
  | succ fuel =>
    rw [runActionEq] at ended
    obtain ⟨body, ran, rfl⟩ := Option.map_eq_some_iff.mp ended
    have nested : Executions (runAction fuel) interpreter action
        (·.Keeps fun _ events _ => Nested (fun _ _ _ => True) events) :=
      fun spans _ _ _ => performNested _ (runActionBrackets interpreter fuel spans) _
    exact ⟨body.events, rfl, bodyKeeps nestedInvariant nested interpreter.spans _ machine body ran⟩

theorem resultsWhole {action : Action} {result : Except ActionError Unit} {events : List (Event H)}
    (whole : Whole action result events) (later : List (Event H)) :
    results (events ++ later) = result :: results later := by
  obtain ⟨inner, rfl, nested⟩ := whole
  simp [resultsLevel nested]

theorem inTurnRelayed {actions : List Action} {result : Except ActionError Unit}
    {events : List (Event H)} (turn : InTurn Whole actions result events) : Relayed result events := by
  induction turn with
  | none => exact nofun
  | @failed _ _ error events failed =>
    rintro _ ⟨⟩
    have only : results (events ++ []) = [.error error] := resultsWhole failed []
    rw [List.append_nil] at only
    exact .inr (only ▸ List.mem_singleton_self _)
  | next went more ih =>
    intro error failed
    rw [resultsWhole went]
    exact (ih error failed).imp_right (List.mem_cons_of_mem _)

theorem runNestedRelays (fuel : Nat) (interpreter : Interpreter H) (dispatch : Dispatch H)
    (stack : Binding.Stack H.Item) :
    (interpreter.perform (runAction fuel interpreter) dispatch.runNested).Follows stack Relayed :=
  Run.followsMono (performFollows interpreter (runActionWhole fuel interpreter) _ stack)
    fun _ _ performed => inTurnRelayed (performedInTurn performed)

end Interpreter

theorem Counting.watchRelayed {run : Action → Except ActionError Unit → List (Event host) → Prop}
    {interpreter : Interpreter host} {result : Except ActionError Unit} {events : List (Event host)}
    (performed : Performed interpreter run watch result events) : Relayed result events := by
  rintro error rfl
  cases performed with
  | ask machine more =>
    change Performed _ _ (checkCount machine.state) _ _ at more
    unfold checkCount at more
    split at more
    · cases more
      exact .inl trivial
    · cases more

theorem Counting.handlersRelay : interpreter.HandlersRelay := by
  intro fuel action spans overridden? handler found machine outcome ended
  rcases handlerCases found with rfl | rfl
  · exact Interpreter.runNestedRelays fuel _ _ machine.stack machine outcome rfl ended
  · exact watchRelayed (Interpreter.performFollows _ (Interpreter.runActionWhole fuel _) watch
      machine.stack machine outcome rfl ended)

theorem Interpreter.failureTracedInBlock : ∃ outcome error inner,
    Counting.interpreter.runAction 4 Counting.block Counting.machine = some outcome ∧
      outcome.result = .error error ∧ error.levels = [("block", none), ("watch", none)] ∧
      outcome.events = .entered Counting.block :: (inner ++ [.left Counting.block outcome.result]) ∧
      FailsTraced Counting.block inner outcome.result ∧ FailurePath Counting.block error outcome.events := by
  have fails : (Counting.interpreter.runAction 4 Counting.block Counting.machine).map
      (fun outcome => (Counting.failure? outcome).map ActionError.levels) =
      some (some [("block", none), ("watch", none)]) := by decide +kernel
  obtain ⟨outcome, ended, levels⟩ := Option.map_eq_some_iff.mp fails
  obtain ⟨error, failure, levels⟩ := Option.map_eq_some_iff.mp levels
  have failed := Counting.failureEq failure
  obtain ⟨inner, events, traced, _, path⟩ := failureTraced Counting.handlersRelay ended
  exact ⟨outcome, error, inner, ended, failed, levels, events, traced, path error failed⟩

end ActionTree

import ActionTree.Proofs.Failure
import ActionTree.Proofs.Following
import ActionTree.Proofs.Telling

/-! Nothing is begun after a failure, wherever in a run it happens. Executions of handlers and runs
of actions come to their end, and frames are taken off. -/
namespace ActionTree
open Binding (Stack Frame Spec)
open Course
variable {H : Host} {ε ε' α β : Type}

/-- Reports a failure. A condition that is neither true nor false is one. -/
def Event.Fails : Event H → Prop
  | .evaluated .guard .items _ (.ok items) => items.head?.bind H.truth? = none
  | .evaluated _ _ _ (.error _) => True
  | .pushed _ _ (.error _) _ => True
  | .iterated _ _ (.error _) _ => True
  | .lookedUp _ false => True
  | .returned _ (.error _) => True
  | _ => False

def Event.Ends : Event H → Prop
  | .popped _ _ => True
  | .logged .rootPopIgnored _ => True
  | .returned _ (.error _) => True
  | .left _ (.error _) => True
  | _ => False

/-- How the first failure shows: not at all, in one event, or in the evaluation and the request
that failed with it. -/
inductive Report : List (Event H) → Prop where
  | silent : Report []
  | alone (event : Event H) : Report [event]
  | request {request spec error caller depth} :
      Report [.evaluated .binding .items request (.error error),
        .pushed caller spec (.error (.evaluation error)) depth]

/-- Goes well without a failure, or comes to an end with its first. -/
inductive Halts {ε α : Type} : Except ε α → List (Event H) → Prop where
  | well {value events} (unfailing : ∀ event ∈ events, ¬ event.Fails) : Halts (.ok value) events
  | failed {error before last ending} (unfailing : ∀ event ∈ before, ¬ event.Fails)
      (report : Report last) (ends : ∀ event ∈ ending, event.Ends) :
      Halts (.error error) (before ++ (last ++ ending))

/-- What there may be after a failure: the ends alone, but for the record of a request whose
evaluation failed. -/
inductive Closes : Event H → List (Event H) → Prop where
  | ended {event after} (ends : ∀ later ∈ after, later.Ends) : Closes event after
  | request {request spec error caller depth after} (ends : ∀ later ∈ after, later.Ends) :
      Closes (.evaluated .binding .items request (.error error))
        (.pushed caller spec (.error (.evaluation error)) depth :: after)

/-- Whatever fails makes the whole fail, and is the last thing that is done. -/
def FailsLast (result : Except ActionError Unit) (events : List (Event H)) : Prop :=
  ∀ before event after, events = before ++ event :: after → event.Fails →
    (∃ error, result = .error error) ∧ Closes event after

theorem Event.Calm.unfailing {event : Event H} (calm : event.Calm) : ¬ event.Fails := by
  cases calm with
  | decided truth => exact fun undecided => absurd (truth.symm.trans undecided) nofun
  | _ => exact id

theorem Event.Unwinds.ends {event : Event H} (unwinds : event.Unwinds) : event.Ends := by
  cases unwinds <;> trivial

namespace Halts

theorem unfailing {value : α} {events : List (Event H)}
    (halts : Halts (.ok value : Except ε α) events) : ∀ event ∈ events, ¬ event.Fails := by
  cases halts with
  | well unfailing => exact unfailing

theorem here {error : ε} {events : List (Event H)} (report : Report events) :
    Halts (.error error : Except ε α) events := by
  have halts : Halts (.error error : Except ε α) ([] ++ (events ++ [])) :=
    .failed (List.forall_mem_nil _) report (List.forall_mem_nil _)
  rwa [List.append_nil] at halts

theorem after {result : Except ε α} {before events : List (Event H)}
    (unfailing : ∀ event ∈ before, ¬ event.Fails) (halts : Halts result events) :
    Halts result (before ++ events) := by
  cases halts with
  | well others => exact .well (List.forall_mem_append.mpr ⟨unfailing, others⟩)
  | failed others report ends =>
    rw [← List.append_assoc]
    exact .failed (List.forall_mem_append.mpr ⟨unfailing, others⟩) report ends

theorem ended {error : ε} {error' : ε'} {events ending : List (Event H)}
    (halts : Halts (.error error : Except ε α) events) (ends : ∀ event ∈ ending, event.Ends) :
    Halts (.error error' : Except ε' β) (events ++ ending) := by
  cases halts with
  | failed unfailing report others =>
    rw [List.append_assoc, List.append_assoc]
    exact .failed unfailing report (List.forall_mem_append.mpr ⟨others, ends⟩)

theorem changed {error : ε} {error' : ε'} {events : List (Event H)}
    (halts : Halts (.error error : Except ε α) events) :
    Halts (.error error' : Except ε' β) events := by
  have whole : Halts (.error error' : Except ε' β) (events ++ []) :=
    halts.ended (List.forall_mem_nil _)
  rwa [List.append_nil] at whole

theorem beyond {early rest before after : List (Event H)} {event : Event H}
    (same : early ++ rest = before ++ event :: after) (apart : event ∉ early) :
    ∃ late, rest = late ++ event :: after := by
  rcases List.append_eq_append_iff.mp same with ⟨late, rfl, rest⟩ | ⟨late, rfl, rest⟩
  · exact ⟨late, rest⟩
  · cases late with
    | nil => exact ⟨[], rest.symm⟩
    | cons first late =>
      cases rest
      exact absurd (List.mem_append_right before (List.mem_cons_self ..)) apart

theorem closesBeyond {late ending after : List (Event H)} {event : Event H}
    (ends : ∀ later ∈ ending, later.Ends) (rest : ending = late ++ event :: after) :
    Closes event after := by
  subst rest
  exact .ended fun later member => ends later (by simp [member])

theorem closesFrom {first : Event H} {late ending after : List (Event H)} {event : Event H}
    (ends : ∀ later ∈ ending, later.Ends) (rest : first :: ending = late ++ event :: after) :
    Closes event after := by
  cases late with
  | nil =>
    cases rest
    exact .ended ends
  | cons other late => exact closesBeyond ends (List.cons.inj rest).2

theorem failsLast {result : Except ActionError Unit} {events : List (Event H)}
    (halts : Halts result events) : FailsLast result events := by
  intro before event after same fails
  cases halts with
  | well unfailing =>
    have member : event ∈ events := by simp [same]
    exact absurd fails (unfailing event member)
  | failed unfailing report ends =>
    refine ⟨⟨_, rfl⟩, ?_⟩
    obtain ⟨late, rest⟩ := beyond same fun early => unfailing event early fails
    cases report with
    | silent => exact closesBeyond ends rest
    | alone first => exact closesFrom ends rest
    | request =>
      cases late with
      | nil =>
        cases rest
        exact .request ends
      | cons first late => exact closesFrom ends (List.cons.inj rest).2

end Halts

namespace Act

def Halting (act : Act H ε α) : Prop :=
  ∀ machine, Halts (act machine).result (act machine).events

theorem haltingPure (value : α) : (pure value : Act H ε α).Halting :=
  fun _ => .well (List.forall_mem_nil _)

theorem haltingOfExcept (result : Except ε α) : (ofExcept result : Act H ε α).Halting := by
  intro machine
  change Halts result []
  cases result with
  | error error => exact .here .silent
  | ok value => exact .well (List.forall_mem_nil _)

theorem haltingBind {first : Act H ε α} {next : α → Act H ε β} (head : first.Halting)
    (tail : ∀ value, (next value).Halting) : (first >>= next).Halting := by
  intro machine
  have halts := head machine
  cases ended : (first machine).result with
  | error error =>
    rw [ended] at halts
    rw [bindError ended]
    exact halts.changed
  | ok value =>
    rw [ended] at halts
    rw [bindOk ended]
    exact (tail value _).after halts.unfailing

theorem haltingMapError {act : Act H ε α} (halting : act.Halting) (change : ε → ε') :
    (act.mapError change).Halting := by
  intro machine
  have halts := halting machine
  change Halts ((act machine).result.mapError change) (act machine).events
  cases ended : (act machine).result with
  | error error =>
    rw [ended] at halts
    exact halts.changed
  | ok value =>
    rw [ended] at halts
    exact .well halts.unfailing

theorem haltingRecord {event : Event H} (unfailing : ¬ event.Fails) :
    (record event : Act H ε Unit).Halting :=
  fun _ => .well (List.forall_mem_singleton.mpr unfailing)

theorem haltingEvaluate (evaluator : Evaluator H.State H.Item) {purpose : Purpose} (mode : Mode)
    (request : Request H.Item) (other : purpose ≠ .guard) :
    (evaluate evaluator purpose mode request).Halting := by
  intro machine
  change Halts (evaluator mode request machine.state).1
    [.evaluated purpose mode request (evaluator mode request machine.state).1]
  generalize (evaluator mode request machine.state).1 = answer
  cases answer with
  | error error => exact .here (.alone _)
  | ok value =>
    refine .well (List.forall_mem_singleton.mpr ?_)
    cases purpose with
    | guard => exact absurd rfl other
    | _ => exact id

theorem haltingAsk (container : Container H) (question : Question H) :
    (ask container question : Act H ε question.Answer).Halting :=
  fun _ => .well (List.forall_mem_singleton.mpr id)

theorem haltingFrame : (frame : Act H ε (Frame H.Item)).Halting :=
  fun _ => .well (List.forall_mem_nil _)

end Act

theorem Binding.haltingPush (evaluator : Evaluator H.State H.Item) (caller : Caller) (spec : Spec) :
    (push evaluator caller spec).Halting := by
  intro machine
  obtain ⟨state, result, events, derivation, _, same⟩ := pushSound evaluator caller spec machine
  rw [same]
  cases derivation.asked with
  | answered calm =>
    exact .well (List.forall_mem_append.mpr
      ⟨fun event member => (calm event member).unfailing, List.forall_mem_singleton.mpr id⟩)
  | refused calm =>
    exact Halts.after (fun event member => (calm event member).unfailing) (.here (.alone _))
  | unanswered calm =>
    rw [List.append_assoc]
    exact Halts.after (fun event member => (calm event member).unfailing) (.here .request)

theorem Binding.haltingPushElement (caller : Caller) (index : Nat) :
    (pushElement caller index : Act H BindingError Unit).Halting := by
  intro machine
  rw [pushElementEq]
  cases machine.stack.elementFrame index with
  | error error => exact .here (.alone _)
  | ok frame => exact .well (List.forall_mem_singleton.mpr id)

theorem Binding.poppingsEnd (caller : Caller) (spans : List Span) (stack : Stack H.Item) :
    ∀ event ∈ poppings caller spans stack, event.Ends ∧ ¬ event.Fails := by
  unfold poppings
  split
  · exact List.forall_mem_cons.mpr ⟨⟨trivial, id⟩, List.forall_mem_singleton.mpr ⟨trivial, id⟩⟩
  · exact List.forall_mem_singleton.mpr ⟨trivial, id⟩

namespace Interpreter
open Act
variable (interpreter : Interpreter H)

theorem haltingEvaluation {purpose : Purpose} (mode : Mode) (action : Action) (focus : Focus H.Item)
    (expression : String) (other : purpose ≠ .guard) :
    (interpreter.evaluate purpose mode action focus expression).Halting :=
  haltingBind haltingFrame fun _ => haltingMapError (haltingEvaluate _ _ _ other) _

theorem haltingCheckGuard (action : Action) (guard : Guard) (expression : String)
    (item? : Option H.Item) : (interpreter.checkGuard action guard expression item?).Halting := by
  cases item? with
  | none => exact haltingBind (haltingRecord id) fun _ => haltingPure _
  | some item =>
    intro machine
    rw [checkGuardEq]
    dsimp only
    generalize (interpreter.evaluator .items _ machine.state).1 = answer
    cases answer with
    | error error => exact .here (.alone _)
    | ok items =>
      cases truth : items.head?.bind H.truth? with
      | none =>
        simp only [guardEvents, guardResult, truth]
        exact .here (.alone _)
      | some value =>
        have decided {request} : ¬ (Event.evaluated .guard .items request (.ok items) : Event H).Fails :=
          (Event.Calm.decided truth).unfailing
        cases value with
        | true =>
          simp only [guardEvents, guardResult, truth]
          exact .well (List.forall_mem_singleton.mpr decided)
        | false =>
          simp only [guardEvents, guardResult, truth]
          exact .well (List.forall_mem_cons.mpr ⟨decided, List.forall_mem_singleton.mpr id⟩)

theorem haltingFillTemplate (action : Action) (raw? : Option String) :
    (interpreter.fillTemplate action raw?).Halting := by
  unfold fillTemplate
  split
  · exact haltingPure _
  · split
    · refine haltingBind haltingFrame fun frame => ?_
      split
      · exact haltingPure _
      · exact haltingBind (interpreter.haltingEvaluation .template action _ _ nofun)
          fun _ => haltingPure _
    · exact haltingPure _

theorem haltingIndexedId (action : Action) (object : H.Object) (indexes : String) :
    (interpreter.indexedId action object indexes).Halting := by
  unfold indexedId
  split
  · exact haltingBind (haltingAsk interpreter.container _) fun _ => haltingOfExcept _
  · exact haltingBind (haltingOfExcept _) fun _ =>
      haltingBind (haltingAsk interpreter.container _) fun _ => haltingPure _

theorem haltingFindObject (action : Action) (targetId : String) :
    (interpreter.findObject action targetId).Halting := by
  refine haltingBind (haltingAsk interpreter.container _) fun (found : Option H.Object) => ?_
  cases found with
  | none => exact haltingPure _
  | some object =>
    refine haltingBind (interpreter.haltingFillTemplate action _) fun written? => ?_
    split
    · exact haltingPure _
    · exact haltingPure _
    · exact haltingBind (interpreter.haltingIndexedId action _ _) fun _ =>
        haltingAsk interpreter.container _

theorem haltingDeferredUpdates (action : Action) : (interpreter.deferredUpdates action).Halting := by
  refine haltingBind haltingFrame fun frame => ?_
  split
  · exact haltingPure _
  · exact haltingBind (interpreter.haltingFillTemplate action _) fun _ => haltingPure _

theorem haltingAnswer (call : Call H) : (interpreter.answer call).Halting := by
  cases call with
  | state => exact fun _ => .well (List.forall_mem_nil _)
  | setState state => exact fun _ => .well (List.forall_mem_nil _)
  | items action focus expression => exact interpreter.haltingEvaluation _ _ _ _ nofun
  | text action focus expression =>
    exact haltingBind (interpreter.haltingEvaluation _ _ _ _ nofun) fun _ => haltingPure _
  | evaluate mode request =>
    have asked : (Act.evaluate interpreter.evaluator .handler mode request).Halting :=
      haltingEvaluate _ _ _ nofun
    exact haltingMapError asked _
  | template action raw? => exact interpreter.haltingFillTemplate action raw?
  | guard action guard expression item? => exact interpreter.haltingCheckGuard _ _ _ _
  | find action targetId => exact interpreter.haltingFindObject action targetId
  | deferredUpdates action => exact interpreter.haltingDeferredUpdates action
  | ask question => exact haltingAsk interpreter.container question
  | frame => exact haltingFrame
  | depth => exact fun _ => .well (List.forall_mem_nil _)
  | push spec => exact haltingMapError (Binding.haltingPush _ _ _) _
  | pushElement index => exact haltingMapError (Binding.haltingPushElement _ _) _
  | pop =>
    intro machine
    have popped := Binding.poppingsEnd .handler interpreter.spans machine.stack
    exact .well fun event member => (popped event member).2
  | note note => exact haltingRecord id

end Interpreter

namespace Program

/-- Hands on a failure, at the most after taking frames off. -/
def GivesUp : Program H α → Prop
  | .done _ => False
  | .fail _ => True
  | .ask call next => call = .pop ∧ ∀ answer, (next answer).GivesUp
  | .run _ _ => False

/-- Gives up as soon as a call or a run of an action fails. -/
def StopsAtFailure : Program H α → Prop
  | .done _ => True
  | .fail _ => True
  | .ask _ next => (∀ error, (next (.error error)).GivesUp) ∧ ∀ value, (next (.ok value)).StopsAtFailure
  | .run _ next => (∀ error, (next (.error error)).GivesUp) ∧ (next (.ok ())).StopsAtFailure

theorem givesUpBind {program : Program H α} (rest : α → Program H β) (gives : program.GivesUp) :
    (program >>= rest).GivesUp := by
  change (program.bind rest).GivesUp
  induction program with
  | done value => exact gives.elim
  | fail error => trivial
  | ask call next ih => exact ⟨gives.1, fun answer => ih answer (gives.2 answer)⟩
  | run action next ih => exact gives.elim

theorem stopsBind {program : Program H α} {rest : α → Program H β} (head : program.StopsAtFailure)
    (tail : ∀ value, (rest value).StopsAtFailure) : (program >>= rest).StopsAtFailure := by
  change (program.bind rest).StopsAtFailure
  induction program with
  | done value => exact tail value
  | fail error => trivial
  | ask call next ih =>
    exact ⟨fun error => givesUpBind rest (head.1 error), fun value => ih _ (head.2 value)⟩
  | run action next ih => exact ⟨fun error => givesUpBind rest (head.1 error), ih _ head.2⟩

theorem stopsRunAll (actions : List Action) : (runAll (H := H) actions).StopsAtFailure := by
  induction actions with
  | nil => trivial
  | cons action rest ih =>
    have alone : (runAction (H := H) action).StopsAtFailure := ⟨fun _ => trivial, trivial⟩
    exact stopsBind alone fun _ => ih

end Program

namespace Course
variable {interpreter : Interpreter H}
  {run : Action → Except ActionError Unit → List (Event H) → Prop}

theorem givenUp {program : Program H α} {result : Except ActionError α} {events : List (Event H)}
    (performed : Performed interpreter run program result events) (gives : program.GivesUp) :
    (∃ error, result = .error error) ∧ ∀ event ∈ events, event.Ends := by
  induction performed with
  | done => exact gives.elim
  | @fail error => exact ⟨⟨error, rfl⟩, List.forall_mem_nil _⟩
  | ask machine more ih =>
    obtain ⟨rfl, rest⟩ := gives
    obtain ⟨failed, ends⟩ := ih (rest _)
    have popped := Binding.poppingsEnd .handler interpreter.spans machine.stack
    exact ⟨failed, List.forall_mem_append.mpr ⟨fun event member => (popped event member).1, ends⟩⟩
  | run ran more ih => exact gives.elim

theorem performedHalts (runs : ∀ {action result events}, run action result events → Halts result events)
    {program : Program H α} {result : Except ActionError α} {events : List (Event H)}
    (performed : Performed interpreter run program result events) (stops : program.StopsAtFailure) :
    Halts result events := by
  -- After a failure the program gives up, and all that it may still do is to take frames off.
  induction performed with
  | done => exact .well (List.forall_mem_nil _)
  | fail => exact .here .silent
  | @ask call next result events machine more ih =>
    have halts := interpreter.haltingAnswer call machine
    cases answered : (interpreter.answer call machine).result with
    | error error =>
      rw [answered] at halts more
      obtain ⟨⟨_, rfl⟩, ends⟩ := givenUp more (stops.1 error)
      exact halts.ended ends
    | ok value =>
      rw [answered] at halts ih
      exact (ih (stops.2 value)).after halts.unfailing
  | @run action next ended result events later ran more ih =>
    have halts := runs ran
    cases ended with
    | error error =>
      obtain ⟨⟨_, rfl⟩, ends⟩ := givenUp more (stops.1 error)
      exact halts.ended ends
    | ok value => exact (ih stops.2).after halts.unfailing

section
variable {action : Action} {events : List (Event H)}

theorem Smooth.unfailing (smooth : Smooth action (Halts (H := H)) events) :
    ∀ event ∈ events, ¬ event.Fails := by
  induction smooth with
  | nil => exact List.forall_mem_nil _
  | calm calm _ ih => exact List.forall_mem_cons.mpr ⟨calm.unfailing, ih⟩
  | executed executed _ ih =>
    exact List.forall_mem_cons.mpr ⟨id, List.forall_mem_append.mpr
      ⟨executed.unfailing, List.forall_mem_cons.mpr ⟨id, ih⟩⟩⟩

theorem Break.halts {cause : ActionError} (broken : Break action (Halts (H := H)) cause events) :
    Halts (.error cause : Except ActionError Unit) events := by
  cases broken with
  | unanswered => exact .here .request
  | @executed overridden? frame _ inner executed =>
    have dispatched : ∀ event ∈ [Event.dispatched action overridden? frame], ¬ event.Fails :=
      List.forall_mem_singleton.mpr id
    have returned : ∀ event ∈ [Event.returned action (.error cause) (H := H)], event.Ends :=
      List.forall_mem_singleton.mpr trivial
    have ended : Halts (.error cause : Except ActionError Unit)
      (inner ++ [.returned action (.error cause)]) := executed.ended returned
    exact ended.after dispatched
  | _ => exact .here (.alone _)

theorem Went.halts {cause : ε → ActionError} {result : Except ε Unit}
    (went : Went action (Halts (H := H)) cause result events) : Halts result events := by
  cases went with
  | well smooth => exact .well smooth.unfailing
  | broken smooth here unwinding =>
    exact (here.halts.ended fun event member => (unwinding event member).ends).after smooth.unfailing

end
end Course

namespace Interpreter
variable {interpreter : Interpreter H}

def HandlersStop (interpreter : Interpreter H) : Prop :=
  ∀ action overridden? handler, interpreter.handlerFor action.name = some handler →
    (handler (interpreter.dispatch action overridden?)).StopsAtFailure

theorem runActionHalts (stop : interpreter.HandlersStop) (fuel : Nat) (spans : List Span)
    (action : Action) (stack : Stack H.Item) :
    (runAction fuel { interpreter with spans } action).Follows stack Halts := by
  -- On the fuel: executions of handlers halt as the runs in them do, which have less of it.
  induction fuel generalizing spans action stack with
  | zero => intro machine outcome upon ended; cases ended
  | succ fuel ih =>
    intro machine outcome upon ended
    rw [runActionEq] at ended
    obtain ⟨body, ran, rfl⟩ := Option.map_eq_some_iff.mp ended
    have executions : ExecutionsFollow (runAction fuel) { interpreter with spans } action
        fun _ _ => Halts := by
      intro spans overridden? handler found stack
      refine Run.followsMono (performFollows _ (ih spans) _ stack) fun result events performed => ?_
      exact performedHalts id performed (stop action overridden? handler found)
    have halts := (bodyWent (runBodyFollows executions _ _ machine body rfl ran)).halts
    have entered : ∀ event ∈ [Event.entered action (H := H)], ¬ event.Fails :=
      List.forall_mem_singleton.mpr id
    change Halts (placed action body.result)
      ([.entered action] ++ (body.events ++ [.left action (placed action body.result)]))
    cases result : body.result with
    | error error =>
      rw [result] at halts
      have left : (Event.left action (placed action (.error error)) : Event H).Ends := trivial
      exact (halts.ended (List.forall_mem_singleton.mpr left)).after entered
    | ok value =>
      rw [result] at halts
      have left : ¬ (Event.left action (.ok ()) : Event H).Fails := id
      exact Halts.after entered (.well (List.forall_mem_append.mpr
        ⟨halts.unfailing, List.forall_mem_singleton.mpr left⟩))

theorem failuresLast (stop : interpreter.HandlersStop) {fuel : Nat} {action : Action}
    {machine : Machine H} {outcome : Outcome H ActionError Unit}
    (ended : interpreter.runAction fuel action machine = some outcome) :
    Running fuel interpreter action outcome.result outcome.events ∧
      FailsLast outcome.result outcome.events := by
  have halts := runActionHalts stop fuel interpreter.spans action machine.stack machine outcome rfl
    ended
  exact ⟨runActionFollows fuel interpreter action machine.stack machine outcome rfl ended,
    halts.failsLast⟩

end Interpreter

theorem Counting.handlersStop : interpreter.HandlersStop := by
  intro action overridden? handler found
  rcases handlerCases found with rfl | rfl
  · exact Program.stopsRunAll _
  · refine ⟨fun _ => trivial, fun count => ?_⟩
    change (checkCount count).StopsAtFailure
    unfold checkCount
    split <;> trivial

theorem Interpreter.failuresLastInBlock : ∃ outcome,
    Counting.interpreter.runAction 4 Counting.block Counting.machine = some outcome ∧
      outcome.result.toOption = none ∧
      Running 4 Counting.interpreter Counting.block outcome.result outcome.events ∧
      FailsLast outcome.result outcome.events := by
  have failed : (Counting.interpreter.runAction 4 Counting.block Counting.machine).map
      (fun outcome => outcome.result.toOption) = some none := by decide +kernel
  obtain ⟨outcome, ended, none⟩ := Option.map_eq_some_iff.mp failed
  exact ⟨outcome, ended, none, failuresLast Counting.handlersStop ended⟩

end ActionTree

import ActionTree.Proofs.Lexical
import ActionTree.Proofs.Restoration
import ActionTree.Proofs.Transport

/-! Runs over a stack are lexical: as long as handlers look no further than the current frame,
what lies below it makes no difference, and is left as it was. -/
namespace ActionTree
open Binding (Stack Frame Spec)
variable {H : Host} {ε ε' α β : Type}

theorem flatAppend (before after : List (Event H)) :
    flat (before ++ after) = flat before ++ flat after :=
  List.filterMap_append

theorem endedAfter (outcome : Outcome H ε α) (events : List (Event H)) :
    (outcome.after events).ended =
      { outcome.ended with events := flat events ++ outcome.ended.events } := by
  simp only [Outcome.ended, Outcome.after, flatAppend]

/-- Does over any stack what can be done with its current frame alone. -/
structure Run.Reads (run : Run H ε α) (lexical : Lexical H ε α) : Prop where
  kept : run.Keeps fun before _ after => after.stack = before.stack
  same : ∀ machine, (run machine).map Outcome.ended = lexical machine.stack.surroundings machine.state

theorem stackChained : Chained (H := H) fun before _ after => after.stack = before.stack :=
  ⟨fun _ => rfl, fun first second => second.trans first⟩

namespace Run
variable {run : Run H ε α} {lexical : Lexical H ε α}

theorem Reads.ended (reads : run.Reads lexical) {machine : Machine H} {outcome : Outcome H ε α}
    (ran : run machine = some outcome) :
    lexical machine.stack.surroundings machine.state = some outcome.ended := by
  rw [← reads.same, ran]
  rfl

theorem readsBind {first : Run H ε α} {first' : Lexical H ε α} {next : α → Run H ε β}
    {next' : α → Lexical H ε β} (head : first.Reads first')
    (tail : ∀ value, (next value).Reads (next' value)) :
    (first >>= next).Reads (first' >>= next') where
  kept := keepsBind stackChained head.kept fun value => (tail value).kept
  same machine := by
    change (bind first next machine).map _ = Lexical.bind first' next' _ _
    unfold bind Lexical.bind
    rw [← head.same]
    cases ran : first machine with
    | none => rfl
    | some before =>
      have upon := head.kept machine before ran
      simp only [Option.map_some, Outcome.ended]
      cases gave : before.result with
      | error error => rfl
      | ok value =>
        dsimp only
        rw [← upon, ← (tail value).same, Option.map_map, Option.map_map]
        exact congrArg (Option.map · _) (funext fun rest => endedAfter rest before.events)

theorem readsMapError (reads : run.Reads lexical) (change : ε → ε') :
    (run.mapError change).Reads (lexical.mapError change) where
  kept := keepsMapError reads.kept change
  same machine := by
    unfold mapError Lexical.mapError
    rw [← reads.same, Option.map_map, Option.map_map]
    rfl

theorem readsAttempt (reads : run.Reads lexical) :
    (run.attempt : Run H ε' (Except ε α)).Reads lexical.attempt where
  kept := keepsAttempt reads.kept
  same machine := by
    unfold attempt Lexical.attempt
    rw [← reads.same, Option.map_map, Option.map_map]
    rfl

theorem readsRecord (event : Event H) :
    Reads (Steps.record event : Run H ε Unit) (Steps.record event) where
  kept := keepsOfAct fun _ => rfl
  same _ := rfl

end Run

namespace Act

theorem Plain.alone {act : Act H ε α} (plain : act.Plain) (machine : Machine H) :
    (act machine).ended = (act ⟨machine.state, machine.stack.surroundings.stack⟩).ended := by
  induction plain generalizing machine with
  | @bind _ _ _ first next head tail firstAlone nextAlone =>
    -- What follows starts from the state that the first step left, alone as before.
    let lone : Machine H := ⟨machine.state, machine.stack.surroundings.stack⟩
    have same : (first machine).ended = (first lone).ended := firstAlone machine
    have state : (first machine).machine.state = (first lone).machine.state :=
      congrArg Ended.state same
    have events : flat (first machine).events = flat (first lone).events := congrArg Ended.events same
    cases gave : (first lone).result with
    | error error =>
      have gave' : (first machine).result = .error error := (congrArg Ended.result same).trans gave
      rw [bindError gave', bindError gave]
      simp only [Outcome.ended, state, events]
    | ok value =>
      have gave' : (first machine).result = .ok value := (congrArg Ended.result same).trans gave
      have stays : (first lone).machine.stack = machine.stack.surroundings.stack := (head.quiet lone).1
      rw [bindOk gave', bindOk gave, endedAfter, endedAfter, events, nextAlone value, state,
        (head.quiet machine).1, ← stays]
  | mapError plain change alone =>
    have same := alone machine
    exact congrArg (fun ended => { ended with result := ended.result.mapError change }) same
  | _ => rfl

theorem Plain.reads {act : Act H ε α} (plain : act.Plain) :
    (Run.ofAct act).Reads (Lexical.ofAct act) where
  kept := Run.keepsOfAct fun machine => (plain.quiet machine).1
  same machine := congrArg some (plain.alone machine)

end Act
namespace Interpreter

theorem enterEq (interpreter : Interpreter H) (origin : Origin) (machine : Machine H) :
    interpreter.enter origin machine =
      (let derived := interpreter.derive machine.stack origin machine
      ⟨derived.result.map fun _ => (), ⟨derived.machine.state, machine.stack.after derived.result⟩,
        derived.events ++ [frameEvent origin derived.result
          (machine.stack.after derived.result).depth]⟩) := by
  cases origin with
  | spec spec => exact Binding.pushEq interpreter.evaluator .interpreter spec machine
  | element index => exact Binding.pushElementEq .interpreter index machine

theorem plainDerive (interpreter : Interpreter H) (stack : Stack H.Item) (origin : Origin) :
    (interpreter.derive stack origin).Plain := by
  cases origin with
  | spec spec => exact Binding.plainFrameFor interpreter.evaluator stack spec
  | element index => exact .ofExcept _

theorem givenFrameEq (origin : Origin) (change : BindingError → ε)
    (result : Except BindingError (Frame H.Item)) (body : Lexical H ε Unit)
    (around : Surroundings H.Item) (state : H.State) :
    givenFrame origin change result body around state = match result with
      | .error error => some ⟨.error (change error), state, [frameEvent origin (.error error) 0]⟩
      | .ok frame => (body { around with frame } state).map fun rest =>
          { rest with events := frameEvent origin (.ok frame) 0 :: rest.events } := by
  cases origin <;> cases result <;> rfl

theorem underGiven (interpreter : Interpreter H) {enter : Act H ε Unit} {change : BindingError → ε}
    (origin : Origin) {body : Run H ε Unit} {body' : Lexical H ε Unit} (reads : body.Reads body')
    {machine : Machine H} {state : H.State} {result : Except BindingError (Frame H.Item)}
    {events : List (Event H)} {depth : Nat} (entered : enter machine =
      ⟨(result.map fun _ => ()).mapError change, ⟨state, machine.stack.after result⟩,
        events ++ [frameEvent origin result depth]⟩) :
    (∀ outcome, interpreter.under enter body machine = some outcome →
      outcome.machine.stack = machine.stack) ∧
    (interpreter.under enter body machine).map Outcome.ended =
      (givenFrame origin change result body' machine.stack.surroundings state).map
        fun rest => { rest with events := flat events ++ rest.events } := by
  have shown : flat (events ++ [frameEvent origin result depth]) =
      flat events ++ [frameEvent origin result 0] := by
    rw [flatAppend]
    cases origin <;> rfl
  rw [underEq, entered, givenFrameEq]
  cases result with
  | error error =>
    constructor
    · rintro outcome ⟨⟩
      rfl
    · change some (Outcome.ended _) = some _
      simp only [Outcome.ended, shown]
  | ok frame =>
    dsimp only [Except.map, Except.mapError, Stack.after]
    constructor
    · intro outcome ended
      obtain ⟨inner, ran, rfl⟩ := Option.map_eq_some_iff.mp ended
      exact congrArg Stack.pop (reads.kept _ inner ran)
    -- The pop shows nothing, and gives back the stack of before as the body kept what it got.
    · have same := reads.same ⟨state, machine.stack.push frame⟩
      change _ = Option.map _ (Option.map _ (body' (machine.stack.push frame).surroundings state))
      rw [← same]
      cases ran : body ⟨state, machine.stack.push frame⟩ with
      | none => rfl
      | some inner =>
        have upon : inner.machine.stack = machine.stack.push frame := reads.kept _ inner ran
        have popped : flat (Binding.poppings .interpreter interpreter.spans
            (machine.stack.push frame)) = [] := rfl
        simp only [Option.map_some, Outcome.ended, flatAppend, shown, Binding.popEq, upon]
        rw [popped, List.append_nil, List.append_assoc, List.singleton_append]

theorem withinReads (interpreter : Interpreter H) (origin : Origin) (change : BindingError → ε)
    {body : Run H ε Unit} {body' : Lexical H ε Unit} (reads : body.Reads body') :
    Run.Reads (Framable.within interpreter origin change body)
      (Framable.within interpreter origin change body') := by
  have under (machine : Machine H) := by
    have entered : (interpreter.enter origin).mapError change machine = _ :=
      Act.mapErrorBy (interpreter.enterEq origin machine)
    exact interpreter.underGiven origin reads entered
  refine ⟨fun machine => (under machine).1, fun machine => (under machine).2.trans ?_⟩
  -- The frame is derived over the whole stack in one, over its current frame in the other.
  let around := machine.stack.surroundings
  let shape (derived : Ended H BindingError (Frame H.Item)) :=
    (givenFrame origin change derived.result body' around derived.state).map fun rest =>
      { rest with events := derived.events ++ rest.events }
  have computed : (Framable.within interpreter origin change body' : Lexical H ε Unit) around
      machine.state = shape (interpreter.derive around.stack origin ⟨machine.state, around.stack⟩).ended := by
    change Option.map _ (Option.map _ _) = _
    rw [Option.map_map]
    rfl
  have lone : interpreter.derive around.stack origin = interpreter.derive machine.stack origin := by
    cases origin <;> rfl
  rw [computed, lone, ← (interpreter.plainDerive machine.stack origin).alone machine]
  rfl

theorem readsMirroring : Mirroring (S := Run H) (T := Lexical H) Run.Reads where
  pure value := (Act.Plain.pure value).reads
  fail _ := (Act.Plain.ofExcept _).reads
  bind := Run.readsBind
  mapError change reads := Run.readsMapError reads change
  attempt := Run.readsAttempt
  plain := Act.Plain.reads
  record := Run.readsRecord
  within interpreter origin change reads := interpreter.withinReads origin change reads

/-- No handler looks beyond the current frame, or changes the frames. -/
def HandlersWithin (interpreter : Interpreter H) : Prop :=
  ∀ action overridden? handler, interpreter.handlerFor action.name = some handler →
    (handler (interpreter.dispatch action overridden?)).Uses fun call => ¬ call.BeyondFrame

theorem runActionReads {interpreter : Interpreter H} (within : interpreter.HandlersWithin) (fuel : Nat)
    (spans : List Span) (action : Action) : (runAction fuel { interpreter with spans } action).Reads
      (runLexically fuel { interpreter with spans } action) :=
  readsMirroring.runIn 0 (fun _ none => none rfl ▸ ⟨fun _ _ => nofun, fun _ => rfl⟩)
    (fun _ _ beyond => (plainAnswer _ beyond).reads) within fuel spans action

end Interpreter

def Event.request? : Event H → Option (Purpose × Mode × Request H.Item)
  | .evaluated purpose mode request _ => some (purpose, mode, request)
  | _ => none

def Event.dispatch? : Event H → Option (Action × Option H.Item × Frame H.Item)
  | .dispatched action overridden? frame => some (action, overridden?, frame)
  | _ => none

theorem filterMapFlat {γ : Type} {view : Event H → Option γ}
    (unmoved : ∀ event, (event.flat?.bind view) = view event) (events : List (Event H)) :
    (flat events).filterMap view = events.filterMap view := by
  rw [flat, List.filterMap_filterMap]
  exact congrArg (List.filterMap · events) (funext unmoved)

namespace Interpreter

/-- The run over a stack is the lexical run in its current frame, so that two stacks with the same
current frame and the same declarations give the same run. -/
theorem runActionLexical {interpreter : Interpreter H} (within : interpreter.HandlersWithin)
    (fuel : Nat) (action : Action) (state : H.State) (stack : Stack H.Item) :
    (interpreter.runAction fuel action ⟨state, stack⟩).map
        (fun outcome => (outcome.ended, outcome.machine.stack)) =
      (interpreter.runLexically fuel action stack.surroundings state).map (·, stack) ∧
    ∀ stack' outcome, stack'.surroundings = stack.surroundings →
      interpreter.runAction fuel action ⟨state, stack⟩ = some outcome →
      ∃ outcome', interpreter.runAction fuel action ⟨state, stack'⟩ = some outcome' ∧
        outcome'.result = outcome.result ∧ outcome'.machine.state = outcome.machine.state ∧
        outcome'.events.filterMap Event.request? = outcome.events.filterMap Event.request? ∧
        outcome'.events.filterMap Event.dispatch? = outcome.events.filterMap Event.dispatch? ∧
        flat outcome'.events = flat outcome.events ∧
        outcome.machine.stack = stack ∧ outcome'.machine.stack = stack' := by
  have reads := runActionReads within fuel interpreter.spans action
  constructor
  · change _ =
      (runLexically fuel interpreter action (Machine.stack ⟨state, stack⟩).surroundings state).map _
    rw [← reads.same ⟨state, stack⟩, Option.map_map]
    cases ended : interpreter.runAction fuel action ⟨state, stack⟩ with
    | none => rfl
    | some outcome =>
      have kept := reads.kept _ outcome ended
      exact congrArg (fun stack => some (outcome.ended, stack)) kept
  · intro stack' outcome around ended
    have read : runLexically fuel interpreter action stack'.surroundings state =
        some outcome.ended := by
      rw [around]
      exact reads.ended ended
    have same := reads.same ⟨state, stack'⟩
    rw [read] at same
    obtain ⟨outcome', ended', alike⟩ := Option.map_eq_some_iff.mp same
    have events : flat outcome'.events = flat outcome.events := congrArg Ended.events alike
    have viewed {γ : Type} {view : Event H → Option γ}
        (unmoved : ∀ event, event.flat?.bind view = view event) :
        outcome'.events.filterMap view = outcome.events.filterMap view := by
      rw [← filterMapFlat unmoved, events, filterMapFlat unmoved]
    refine ⟨outcome', ended', congrArg Ended.result alike, congrArg Ended.state alike, viewed ?_,
      viewed ?_, events, reads.kept _ outcome ended, reads.kept _ outcome' ended'⟩
    · intro event
      cases event <;> rfl
    · intro event
      cases event <;> rfl

end Interpreter

namespace Counting

theorem handlersWithin : interpreter.HandlersWithin := fun _ _ _ found => handlersUse id found _

def deeper : Binding.Stack Nat := (Binding.Stack.ofRoot (.start [(3 : Nat)])).push (.start [(7 : Nat)])

end Counting

theorem Interpreter.runActionLexicalDeeper : ∃ outcome outcome',
    Counting.interpreter.runAction 4 Counting.block Counting.machine = some outcome ∧
      Counting.interpreter.runAction 4 Counting.block ⟨(0 : Nat), Counting.deeper⟩ = some outcome' ∧
      outcome.result.toOption = none ∧ outcome'.result = outcome.result ∧
      outcome'.events.filterMap Event.request? = outcome.events.filterMap Event.request? ∧
      outcome'.machine.stack = Counting.deeper := by
  have failed : (Counting.interpreter.runAction 4 Counting.block Counting.machine).map
      (fun outcome => outcome.result.toOption) = some none := by decide +kernel
  obtain ⟨outcome, ended, none⟩ := Option.map_eq_some_iff.mp failed
  have lexical := runActionLexical Counting.handlersWithin 4 Counting.block (0 : Nat)
    (.ofRoot (.start [(7 : Nat)]))
  obtain ⟨outcome', ended', result, _, requests, _, _, _, kept⟩ :=
    lexical.2 Counting.deeper outcome rfl ended
  exact ⟨outcome, outcome', ended, ended', none, result, requests, kept⟩

end ActionTree

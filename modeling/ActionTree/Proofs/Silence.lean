import ActionTree.Proofs.Absence
import ActionTree.Proofs.Asking
import ActionTree.Proofs.Upholding

/-! Trees run where there is no item. Nothing is evaluated there, and what depends on an item is
passed over. -/
namespace ActionTree
open Binding (Stack Frame Spec)
variable {H : Host} {ε α : Type}

/-- Neither an evaluation nor about running actions. -/
def Event.Idle : Event H → Prop
  | .evaluated _ _ _ _ => False
  | .entered _ => False
  | .left _ _ => False
  | .dispatched _ _ _ => False
  | .returned _ _ => False
  | _ => True

/-- No evaluation. An execution of a handler is one that needs no item and finds none. -/
def Event.Silent : Event H → Prop
  | .evaluated _ _ _ _ => False
  | .dispatched action overridden? frame =>
      ¬ action.Conditional ∧ overridden? = none ∧ frame.single? = none
  | _ => True

/-- What becomes of an action where there is no item, by its own events and how it ended. -/
inductive Hushed (handlerFor : Name → Option (Handler H)) (action : Action) :
    List (Event H) → Except ActionError Unit → Prop where
  | skipped {shown} (conditional : action.Conditional) (idle : ∀ event ∈ shown, event.Idle) :
      Hushed handlerFor action shown (.ok ())
  | unknown {shown} (free : ¬ action.Conditional)
      (unknown : handlerFor action.name = none) (idle : ∀ event ∈ shown, event.Idle) :
      Hushed handlerFor action shown (.error (.unknownAction action.name))
  | executed {before after frame result} (free : ¬ action.Conditional)
      (found : (handlerFor action.name).isSome) (nothing : frame.single? = none)
      (early : ∀ event ∈ before, event.Idle) (late : ∀ event ∈ after, event.Idle) :
      Hushed handlerFor action
        (before ++ .dispatched action none frame :: .returned action result :: after) result

theorem Hushed.around {handlerFor : Name → Option (Handler H)} {action : Action}
    {shown opening last : List (Event H)} {result : Except ActionError Unit} (hushed : Hushed handlerFor action shown result)
    (opens : ∀ event ∈ opening, event.Idle) (closes : ∀ event ∈ last, event.Idle) :
    Hushed handlerFor action (opening ++ (shown ++ last)) result := by
  have whole {before after : List (Event H)} (first : ∀ event ∈ before, event.Idle)
      (second : ∀ event ∈ after, event.Idle) : ∀ event ∈ before ++ after, event.Idle :=
    fun event member => (List.mem_append.mp member).elim (first event) (second event)
  cases hushed with
  | skipped conditional idle => exact .skipped conditional (whole opens (whole idle closes))
  | unknown free unknown idle => exact .unknown free unknown (whole opens (whole idle closes))
  | executed free found nothing early late =>
    simpa using Hushed.executed free found nothing (whole opens early) (whole late closes)

def Passing (handlerFor : Name → Option (Handler H)) (action : Action) (inner : List (Event H))
    (result : Except ActionError Unit) : Prop :=
  ∃ ended, Hushed handlerFor action (own inner) ended ∧
    result = ended.mapError fun cause => cause.within action .outside

/-- A journal without evaluations, whose levels are those of actions that find no item. -/
structure Hush (handlerFor : Name → Option (Handler H)) (events : List (Event H)) : Prop where
  nested : Nested (Passing handlerFor) events
  silent : ∀ event ∈ events, event.Silent

def Hushing (handlerFor : Name → Option (Handler H)) (action : Action) (place : ActionError → ε)
    (result : Except ε Unit) (events : List (Event H)) : Prop :=
  ∃ ended shown, result = ended.mapError place ∧ Shows events shown ∧
    Hush handlerFor events ∧ Hushed handlerFor action shown ended

namespace Hush
variable {handlerFor : Name → Option (Handler H)} {action : Action} {events : List (Event H)}

theorem append {before after : List (Event H)} (first : Hush handlerFor before)
    (second : Hush handlerFor after) : Hush handlerFor (before ++ after) :=
  ⟨first.nested.append second.nested, fun event member => (List.mem_append.mp member).elim
    (first.silent event) (second.silent event)⟩

theorem ofQuiet (quiet : ∀ event ∈ events, event.Quiet)
    (unasked : ∀ purpose mode request answer, .evaluated purpose mode request answer ∉ events) :
    Hush handlerFor events := by
  refine ⟨.ofSingles fun event member => (quiet event member).single, fun event member => ?_⟩
  cases event with
  | evaluated purpose mode request answer => exact unasked _ _ _ _ member
  | dispatched action overridden? frame => exact (quiet _ member).elim
  | _ => trivial

theorem level {result : Except ActionError Unit} (passing : Passing handlerFor action events result)
    (hush : Hush handlerFor events) :
    Hush handlerFor (.entered action :: (events ++ [.left action result])) := by
  refine ⟨.level passing hush.nested .nil, fun event member => ?_⟩
  simp only [List.mem_cons, List.mem_append] at member
  rcases member with rfl | early | rfl | none
  · trivial
  · exact hush.silent event early
  · trivial
  · cases none

theorem idleShows {events : List (Event H)} (idle : ∀ event ∈ events, event.Idle) :
    Shows events events := by
  refine .undispatched fun event member => ?_
  cases event with
  | dispatched action overridden? frame => exact (idle _ member).elim
  | _ => rfl

end Hush

namespace Hushing
variable {handlerFor : Name → Option (Handler H)} {action : Action} {place : ActionError → ε}
  {result : Except ε Unit} {events : List (Event H)}

theorem ofSteps (hushed : Hushed handlerFor action events (.ok ()))
    (hush : Hush handlerFor events) (shows' : Shows events events) :
    Hushing handlerFor action place (.ok ()) events :=
  ⟨.ok (), events, rfl, shows', hush, hushed⟩

theorem framed {frame : Frame H.Item} {opening : Event H} (depth : Nat) (opens : opening.Opens frame)
    (idle : opening.Idle) (inside : Hushing handlerFor action place result events) :
    Hushing handlerFor action place result (opening :: (events ++ [.popped .interpreter depth])) := by
  obtain ⟨ended, shown, rfl, shows', hush, hushed⟩ := inside
  have first : ∀ event ∈ [opening], event.Idle := by simpa using idle
  have last : ∀ event ∈ [(.popped .interpreter depth : Event H)], event.Idle := by simp [Event.Idle]
  refine ⟨ended, _, rfl,
    (Hush.idleShows first).append (shows'.append (Hush.idleShows last)), ⟨?_, ?_⟩,
    hushed.around first last⟩
  · exact .frame opens hush.nested .nil
  · intro event member
    rcases List.mem_cons.mp member with rfl | later
    · cases event <;> first | exact idle | trivial
    · rcases List.mem_append.mp later with early | last
      · exact hush.silent event early
      · cases List.mem_singleton.mp last
        trivial

theorem quietly {before after : List (Event H)} (early : ∀ event ∈ before, event.Quiet ∧ event.Idle)
    (late : ∀ event ∈ after, event.Quiet ∧ event.Idle)
    (inside : Hushing handlerFor action place result events) :
    Hushing handlerFor action place result (before ++ (events ++ after)) := by
  have hush {events : List (Event H)} (still : ∀ event ∈ events, event.Quiet ∧ event.Idle) :
      Hush handlerFor events :=
    .ofQuiet (fun event member => (still event member).1)
      fun purpose mode request answer member => (still _ member).2
  have first event member := (early event member).2
  have last event member := (late event member).2
  obtain ⟨ended, shown, rfl, shows', inner, hushed⟩ := inside
  exact ⟨ended, _, rfl, (Hush.idleShows first).append (shows'.append (Hush.idleShows last)),
    (hush early).append (inner.append (hush late)), hushed.around first last⟩

theorem placed (change : ε → ε') (inside : Hushing handlerFor action place result events) :
    Hushing handlerFor action (change ∘ place) (result.mapError change) events := by
  obtain ⟨ended, shown, rfl, rest⟩ := inside
  exact ⟨ended, shown, by cases ended <;> rfl, rest⟩

end Hushing

/-- Calls that evaluate, if anything, attributes of an action, and leave the frames alone. -/
def Call.Modest : Call H → Prop
  | .items _ _ _ => False
  | .text _ _ _ => False
  | .evaluate _ _ => False
  | .guard _ _ _ _ => False
  | .push _ => False
  | .pushElement _ => False
  | .pop => False
  | _ => True

theorem Call.Modest.stays {call : Call H} (modest : call.Modest) : ¬ call.MovesStack := by
  cases call <;> first | exact modest.elim | exact id

namespace Interpreter
variable {stack : Stack H.Item} {interpreter : Interpreter H} {action : Action}

theorem answerHush (interpreter : Interpreter H) {call : Call H} (modest : call.Modest)
    (nothing : stack.current.single? = none) (handlerFor : Name → Option (Handler H))
    (state : H.State) : (interpreter.answer call ⟨state, stack⟩).machine.stack = stack ∧
      Hush handlerFor (interpreter.answer call ⟨state, stack⟩).events := by
  obtain ⟨⟨same, quiet⟩, requests⟩ := interpreter.answerAsks modest.stays ⟨state, stack⟩
  refine ⟨same, .ofQuiet quiet fun purpose mode request answer member => ?_⟩
  have empty : stack.current.single?.isSome → False := by simp [nothing]
  cases requests purpose mode request answer member with
  | template single => exact empty single
  | find single => exact empty single
  | deferredUpdates single => exact empty single
  | _ => exact modest

theorem performEnds {handlerFor : Name → Option (Handler H)} {runs : Action → Prop}
    {run : Action → Run H ActionError Unit} (nothing : stack.current.single? = none)
    (nested : ∀ action, runs action → (run action).Ends stack fun _ events => Hush handlerFor events)
    {program : Program H α} (uses : program.Uses Call.Modest) (follows : program.Runs runs) :
    (interpreter.perform run program).Ends stack fun _ events => Hush handlerFor events := by
  have done (result : Except ActionError α) :
      (Run.ofAct (Act.ofExcept result)).Ends stack fun _ events => Hush handlerFor events :=
    Run.endsAct fun _ => ⟨rfl, .ofQuiet (by simp [Act.ofExcept]) (by simp [Act.ofExcept])⟩
  induction program with
  | done value => exact done (.ok value)
  | fail error => exact done (.error error)
  | ask call next ih =>
    have answered : (Run.ofAct (interpreter.answer call)).attempt.Ends stack
        fun (_ : Except ActionError _) events => Hush handlerFor events :=
      Run.endsAttempt (Run.endsAct (interpreter.answerHush uses.1 nothing handlerFor))
    refine Run.endsBind answered (fun _ _ hush => hush) fun answer events hush => ?_
    exact Run.endsMono (ih answer (uses.2 answer) (follows answer)) fun _ _ rest => hush.append rest
  | run action next ih =>
    have ran : (run action).attempt.Ends stack
        fun (_ : Except ActionError _) events => Hush handlerFor events :=
      Run.endsAttempt (nested action follows.1)
    refine Run.endsBind ran (fun _ _ hush => hush) fun result events hush => ?_
    exact Run.endsMono (ih result (uses result) (follows.2 result)) fun _ _ rest => hush.append rest

theorem admitsNone (interpreter : Interpreter H) (action : Action) (guard : Guard)
    (machine : Machine H) : interpreter.admits action none guard machine =
      ⟨.ok (action.guard? guard).isNone, machine, if (action.guard? guard).isSome then
        [interpreter.logged (.skipped action.name guard .missingContext)] else []⟩ := by
  unfold admits
  cases action.guard? guard <;> rfl

variable {run : Interpreter H → Action → Run H ActionError Unit}

theorem handleEnds {handler : Handler H} (free : ¬ action.Conditional)
    (found : interpreter.handlerFor action.name = some handler)
    (nothing : stack.current.single? = none)
    (performed : (interpreter.perform (run interpreter)
      (handler (interpreter.dispatch action none))).Ends stack
        fun _ events => Hush interpreter.handlerFor events) :
    (handle run interpreter action handler none).Ends stack
      (Hushing interpreter.handlerFor action id) := by
  intro state
  obtain ⟨inner, ran, same, hush⟩ := performed state
  have shown := Shows.execution hush.nested action none stack.current inner.result
  rw [handle, inExecutionEq]
  have executed : Hushed interpreter.handlerFor action
      ([] ++ .dispatched action none stack.current :: .returned action inner.result :: []) inner.result :=
    .executed free (by simp [found]) nothing (by simp) (by simp)
  refine ⟨_, congrArg (Option.map _) ran, same, inner.result, _, ?_, shown, ⟨?_, ?_⟩, executed⟩
  · cases inner.result <;> rfl
  · exact .execution hush.nested .nil
  · intro event member
    simp only [List.mem_cons, List.mem_append] at member
    rcases member with rfl | early | rfl | none
    · exact ⟨free, rfl, nothing⟩
    · exact hush.silent event early
    · trivial
    · cases none

theorem executeEnds (unbound : action.bind? = none) (free : ¬ action.Conditional)
    (nothing : stack.current.single? = none)
    (handled : ∀ handler frame, interpreter.handlerFor action.name = some handler →
      Binding.Void frame → (handle run interpreter action handler none).Ends
        (stack.push frame) (Hushing interpreter.handlerFor action id)) :
    (execute run interpreter action none).Ends stack
      (Hushing interpreter.handlerFor action id) := by
  refine Run.endsRecord (Run.endsRecord ?_)
  have opening (found : Bool) : ∀ event ∈ [logged interpreter .executing,
      .lookedUp action.name found], event.Quiet ∧ event.Idle := by
    simp [logged, Event.Quiet, Event.Idle]
  cases found : interpreter.handlerFor action.name with
  | none =>
    have idle event member := (opening false event member).2
    have quiet event member := (opening false event member).1
    refine Run.endsAct fun state => ⟨rfl, .error (.unknownAction action.name), _, rfl,
      Hush.idleShows idle, .ofQuiet quiet ?_, .unknown free found idle⟩
    exact fun _ _ _ _ member => idle _ member
  | some handler =>
    have bound := underEnds interpreter (interpreter.targetSpec action) .binding rfl
      unbound nothing (Q := Hushing interpreter.handlerFor action id)
      fun frame void _ => Run.endsMono (handled handler frame found void) fun result events hushing =>
        hushing.framed stack.depth rfl trivial
    refine Run.endsBind bound ?_ fun value events hushing => ?_
    · intro error events hushing
      have none : ∀ event ∈ ([] : List (Event H)), event.Quiet ∧ event.Idle := by simp
      simpa using hushing.quietly (opening true) none
    · have done : ∀ event ∈ [logged interpreter .done], event.Quiet ∧ event.Idle := by
        simp [logged, Event.Quiet, Event.Idle]
      exact Run.endsAct fun state => ⟨rfl, hushing.quietly (opening true) done⟩

theorem runPassSkips (interpreter : Interpreter H) (pass? : Option Nat)
    (guarded : (action.guard? .onlyIf).isSome ∨ (action.guard? .asLongAs).isSome)
    (machine : Machine H) : ∃ guard, runPass run interpreter action none none pass? machine =
      some ⟨.ok false, machine, [interpreter.logged (.skipped action.name guard .missingContext)]⟩ := by
  have admits (guard : Guard) := admitsNone interpreter action guard machine
  cases first : action.guard? .onlyIf with
  | some expression =>
    refine ⟨.onlyIf, Run.bindEqSome.mpr ⟨_, congrArg some (admits .onlyIf),
      .inr ⟨false, ⟨.ok false, machine, []⟩, ?_, rfl, ?_⟩⟩⟩
    · simp [first]
    · simp [first, Outcome.after]
  | none =>
    have second : (action.guard? .asLongAs).isSome := by simpa [first] using guarded
    refine ⟨.asLongAs, Run.bindEqSome.mpr ⟨_, congrArg some (admits .onlyIf), .inr ⟨true,
      ⟨.ok false, machine, [interpreter.logged (.skipped action.name .asLongAs .missingContext)]⟩, ?_,
      Run.bindEqSome.mpr ⟨_, congrArg some (admits .asLongAs),
        .inr ⟨false, ⟨.ok false, machine, []⟩, ?_, rfl, ?_⟩⟩, ?_⟩⟩⟩
    · simp [first]
    · simpa using second
    · simp [second, Outcome.after]
    · simp [first, Outcome.after]

theorem runPassesSkip (interpreter : Interpreter H)
    (guarded : (action.guard? .onlyIf).isSome ∨ (action.guard? .asLongAs).isSome) (fuel pass : Nat) :
    (runPasses run interpreter action none none (fuel + 1) pass).Ends stack
      (Hushing interpreter.handlerFor action (inPass none)) := by
  intro state
  obtain ⟨guard, passed⟩ := interpreter.runPassSkips
    (if (action.guard? .asLongAs).isSome then some pass else none) guarded ⟨state, stack⟩
  have still : ∀ event ∈ [interpreter.logged (.skipped action.name guard .missingContext)],
      event.Quiet ∧ event.Idle := by simp [logged, Event.Quiet, Event.Idle]
  have idle event member := (still event member).2
  have conditional : action.Conditional := guarded.imp id .inl
  refine ⟨_, Run.bindEqSome.mpr ⟨_, Run.mapErrorEqSome.mpr ⟨_, passed, rfl⟩,
    .inr ⟨false, ⟨.ok (), ⟨state, stack⟩, []⟩, rfl, rfl, rfl⟩⟩, rfl, ?_⟩
  exact .ofSteps (.skipped conditional idle) (.ofQuiet (fun event member => (still event member).1)
    fun _ _ _ _ member => idle _ member) (Hush.idleShows idle)

theorem runPassesOnce (interpreter : Interpreter H) (unguarded : ∀ guard, action.guard? guard = none)
    (executed : ∀ spans, (execute run { interpreter with spans } action none).Ends stack
      (Hushing interpreter.handlerFor action id)) (fuel pass : Nat) :
    (runPasses run interpreter action none none (fuel + 1) pass).Ends stack
      (Hushing interpreter.handlerFor action (inPass none)) := by
  have admitted (guard : Guard) : (Run.ofAct (interpreter.admits action none guard)).Ends stack
      fun result events => result = .ok true ∧ events = [] := by
    refine Run.endsAct fun state => ?_
    rw [admitsNone, unguarded]
    exact ⟨rfl, rfl, rfl⟩
  have passed : (runPass run interpreter action none none none).Ends stack fun result events =>
      Hushing interpreter.handlerFor action id (result.map fun _ => ()) events := by
    refine Run.endsBind (admitted .onlyIf) (fun _ _ failed => nomatch failed.1) ?_
    rintro first _ ⟨same, rfl⟩
    cases same
    refine Run.endsBind (admitted .asLongAs) (fun _ _ failed => nomatch failed.1) ?_
    rintro second _ ⟨same, rfl⟩
    cases same
    refine Run.endsBind (executed _) (fun _ _ hushing => hushing) fun value events hushing => ?_
    exact Run.endsAct fun state => ⟨rfl, (List.append_nil events).symm ▸ hushing⟩
  have placed : ((runPass run interpreter action none none none).mapError (inPass none)).Ends stack
      fun result events => Hushing interpreter.handlerFor action (inPass none)
        (result.map fun _ => ()) events := by
    refine Run.endsMapError (Run.endsMono passed fun result events hushing => ?_)
    cases result <;> exact hushing.placed (inPass none)
  rw [runPasses, unguarded]
  refine Run.endsBind placed (fun _ _ hushing => hushing) fun value events hushing => ?_
  simp only [Option.isSome_none, Bool.and_false, Bool.false_eq_true, if_false]
  exact Run.endsAct fun state => ⟨rfl, (List.append_nil events).symm ▸ hushing⟩

theorem runBodyEnds (interpreter : Interpreter H) (unbound : action.Unbound)
    (nothing : stack.current.single? = none)
    (performed : ∀ spans handler stack, interpreter.handlerFor action.name = some handler →
      stack.current.single? = none → ({ interpreter with spans }.perform
        (run { interpreter with spans }) (handler (interpreter.dispatch action none))).Ends stack
          fun _ events => Hush interpreter.handlerFor events) (fuel : Nat) :
    (runBody run interpreter action (fuel + 1)).Ends stack
      (Hushing interpreter.handlerFor action (inPass none)) := by
  refine underEnds interpreter (interpreter.groundSpec action) _ unbound.1 rfl nothing
    fun frame void empty => Run.endsMono (P := Hushing interpreter.handlerFor action (inPass none))
      (Run.endsFrame ?_) fun result events hushing => hushing.framed stack.depth rfl trivial
  have here : (stack.push frame).current = frame := Stack.currentPush stack frame
  rw [here]
  by_cases iterates : action.iterate?.isSome
  · rw [if_pos iterates, empty iterates]
    have none : Hushing interpreter.handlerFor action (inPass none) (.ok ()) [] :=
      .ofSteps (.skipped (.inr (.inr iterates)) (by simp)) (.ofQuiet (by simp) (by simp)) .nil
    exact Run.endsAct fun state => ⟨rfl, none⟩
  · rw [if_neg iterates]
    simp only [void.context, ite_self]
    by_cases guarded : (action.guard? .onlyIf).isSome ∨ (action.guard? .asLongAs).isSome
    · exact runPassesSkip interpreter guarded fuel 1
    · obtain ⟨first, second⟩ := not_or.mp guarded
      have free : ¬ action.Conditional := by simp [Action.Conditional, first, second, iterates]
      have unguarded : ∀ guard, action.guard? guard = none
        | .onlyIf => by simpa using first
        | .asLongAs => by simpa using second
      refine runPassesOnce interpreter unguarded (fun spans => ?_) fuel 1
      refine executeEnds unbound.2 free (here ▸ void.single) fun handler inner found void' => ?_
      exact handleEnds free found void'.single (performed spans handler _ found void'.single)

theorem runEnds (handlers : interpreter.HandlersKeepTo (fun _ => Call.Modest)
      fun action nested => nested ∈ action.children) (fuel : Nat) (spans : List Span)
    (unbound : ∀ nested ∈ action.subtree, nested.Unbound) (enough : action.height ≤ fuel)
    (nothing : stack.current.single? = none) :
    (runAction fuel { interpreter with spans } action).Ends stack fun result events => ∃ inner,
      events = .entered action :: (inner ++ [.left action result]) ∧
        Passing interpreter.handlerFor action inner result ∧ Hush interpreter.handlerFor inner := by
  -- On the fuel, which is enough for the height of what a handler runs.
  induction fuel generalizing spans action stack with
  | zero =>
    cases action
    simp [Action.height] at enough
  | succ fuel ih =>
    have here : action.Unbound := unbound action (by simp [Action.subtreeEq])
    have body : (runBody (runAction fuel) { interpreter with spans } action (fuel + 1)).Ends stack
        (Hushing interpreter.handlerFor action (inPass none)) := by
      refine runBodyEnds { interpreter with spans } here nothing ?_ fuel
      intro spans handler stack found nothing
      obtain ⟨uses, follows⟩ := handlers action none handler found
      refine performEnds nothing (fun nested member => ?_) uses follows
      have lower := Action.heightChild member
      have below : ∀ inner ∈ nested.subtree, inner.Unbound := fun inner inside =>
        unbound inner (Action.subtreeChild member inside)
      refine Run.endsMono (ih spans below (by omega) nothing) ?_
      rintro result events ⟨inner, rfl, passing, hush⟩
      exact hush.level passing
    intro state
    obtain ⟨outcome, ran, same, ended, shown, result, shows', hush, hushed⟩ := body state
    rw [runActionEq, ran]
    refine ⟨_, rfl, same, outcome.events, rfl, ⟨ended, ?_, ?_⟩, hush⟩
    · rw [shows'.own]
      exact hushed
    · change placed action outcome.result = _
      rw [result]
      cases ended <;> rfl

theorem memOwnFrom (depth : Nat) (events : List (Event H)) :
    ∀ event ∈ ownFrom depth events, event ∈ events := by
  fun_induction ownFrom depth events <;> grind

/-- The run of a tree without an item ends. Its journal is a hush, and a failure is that of an
unknown action or the one that the handler returned. -/
theorem absenceSilences (handlers : interpreter.HandlersKeepTo (fun _ => Call.Modest)
      fun action nested => nested ∈ action.children)
    (unbound : ∀ nested ∈ action.subtree, nested.Unbound) {fuel : Nat} (enough : action.height ≤ fuel)
    {machine : Machine H} (nothing : machine.stack.current.single? = none) :
    ∃ outcome inner, interpreter.runAction fuel action machine = some outcome ∧
      outcome.events = .entered action :: (inner ++ [.left action outcome.result]) ∧
      Passing interpreter.handlerFor action inner outcome.result ∧
      Nested (Passing interpreter.handlerFor) inner ∧
      (∀ event ∈ outcome.events, event.Silent) ∧
      ∀ error, outcome.result = .error error →
        (error.rootCause = .unknownAction action.name ∧ interpreter.handlerFor action.name = none) ∨
          ∃ cause, .returned action (.error cause) ∈ outcome.events ∧
            error.rootCause = cause.rootCause := by
  obtain ⟨outcome, ended, _, inner, shape, passing, hush⟩ :=
    runEnds handlers fuel interpreter.spans unbound enough nothing machine.state
  have silent : ∀ event ∈ outcome.events, event.Silent := shape ▸ (hush.level passing).silent
  refine ⟨outcome, inner, ended, shape, passing, hush.nested, silent, fun error failed => ?_⟩
  obtain ⟨result, hushed, same⟩ := passing
  rw [failed] at same
  cases result with
  | ok value => cases same
  | error cause =>
    cases same
    generalize shown : own inner = events at hushed
    cases hushed with
    | unknown free unknown idle => exact .inl ⟨rfl, unknown⟩
    | @executed before after frame _ free found nothing early late =>
      refine .inr ⟨cause, ?_, rfl⟩
      have member : .returned action (.error cause) ∈ own inner := by simp [shown]
      rw [shape]
      simp [memOwnFrom 0 inner _ member]

end Interpreter

namespace Counting

def hushed : Action := action "block" [("context", "all")]
  [action "watch" [("ref", "all")] [], action "other" [("if", "yes")] [], action "watch" [] []]

def nowhere : Machine host := ⟨(0 : Nat), .ofRoot .empty⟩

def Event.executed? : Event host → Option String
  | .dispatched action _ _ => some action.name.localPart
  | _ => none

end Counting

theorem Interpreter.absenceSilencesInBlock : ∃ outcome inner,
    Counting.interpreter.runAction 2 Counting.hushed Counting.nowhere = some outcome ∧
      outcome.events.filterMap Counting.Event.executed? = ["block", "watch", "watch"] ∧
      Passing Counting.handlerFor Counting.hushed inner outcome.result ∧
      ∀ event ∈ outcome.events, event.Silent := by
  have keep : Counting.interpreter.HandlersKeepTo (fun _ => Call.Modest)
      fun action nested => nested ∈ action.children :=
    Counting.handlersKeepTo (fun _ => trivial) fun _ _ member => member
  obtain ⟨outcome, inner, ended, _, passing, _, silent, _⟩ := absenceSilences keep
    (show ∀ nested ∈ Counting.hushed.subtree, nested.Unbound by decide)
    (show Counting.hushed.height ≤ 2 by decide)
    (show Counting.nowhere.stack.current.single? = none from rfl)
  have executed : (Counting.interpreter.runAction 2 Counting.hushed Counting.nowhere).map
      (fun outcome => outcome.events.filterMap Counting.Event.executed?) =
        some ["block", "watch", "watch"] := by decide +kernel
  rw [ended] at executed
  exact ⟨outcome, inner, ended, Option.some.inj executed, passing, silent⟩

namespace Counting

/-- Leaves the frames that its action put up, and the one below. -/
def lift (dispatch : Dispatch host) : Program host Unit := do
  .call .pop
  .call .pop
  .call .pop
  dispatch.runNested

def inModel : Spec := { Spec.anchored block "" with model? := some "m" }

def enter (dispatch : Dispatch host) : Program host Unit := do
  .call (.push inModel)
  dispatch.runNested
  .call .pop

def moving : Interpreter host := { interpreter with
  handlerFor := fun name => if name.localPart = "lift" then some lift else
    if name.localPart = "enter" then some enter else none }

def around (name : String) : Action := action name [] [action "watch" [("if", "yes")] []]

def nowhereAbove : Machine host :=
  ⟨(0 : Nat), ((Stack.ofRoot (.start [(7 : Nat)])).addModel "m" [5]).push .empty⟩

theorem movingKeepsTo : moving.HandlersKeepTo (fun _ call => call = .pop ∨ call = .push inModel)
    fun action nested => nested ∈ action.children := by
  have uses {call : Call host} (moves : call = .pop ∨ call = .push inModel) :
      (Program.call call).Uses fun call => call = .pop ∨ call = .push inModel :=
    ⟨moves, Program.usesOfExcept⟩
  have runs {allowed : Action → Prop} (call : Call host) : (Program.call call).Runs allowed :=
    fun answer => by cases answer <;> trivial
  intro action overridden? handler found
  have nested : (Program.runAll (H := host) action.children).Runs (· ∈ action.children) :=
    Program.runsRunAll fun _ member => member
  change (if action.name.localPart = "lift" then some lift else
    if action.name.localPart = "enter" then some enter else none) = some handler at found
  split at found
  · cases found
    exact ⟨Program.usesBind (uses (.inl rfl)) fun _ => Program.usesBind (uses (.inl rfl)) fun _ =>
        Program.usesBind (uses (.inl rfl)) fun _ => Program.usesRunAll _,
      Program.runsBind (runs _) fun _ => Program.runsBind (runs _) fun _ =>
        Program.runsBind (runs _) fun _ => nested⟩
  · split at found
    · cases found
      exact ⟨Program.usesBind (uses (.inr rfl)) fun _ => Program.usesBind (Program.usesRunAll _) fun _ =>
          uses (.inl rfl),
        Program.runsBind (runs _) fun _ => Program.runsBind nested fun _ => runs _⟩
    · cases found

def Event.evaluates : Event host → Bool
  | .evaluated _ _ _ _ => true
  | _ => false

end Counting

/-- Handlers that take frames off, or put one on for a model, can bring an item into sight. -/
theorem Interpreter.movedFramesEvaluate :
    Counting.moving.HandlersKeepTo (fun _ call => call = .pop ∨ call = .push Counting.inModel)
        (fun action nested => nested ∈ action.children) ∧
      Counting.nowhereAbove.stack.current.single? = none ∧
      ∀ name ∈ ["lift", "enter"], (∀ nested ∈ (Counting.around name).subtree, nested.Unbound) ∧
        ∃ outcome, Counting.moving.runAction 2 (Counting.around name) Counting.nowhereAbove =
          some outcome ∧ outcome.events.any Counting.Event.evaluates := by
  refine ⟨Counting.movingKeepsTo, rfl, fun name member => ?_⟩
  have evaluates : (Counting.moving.runAction 2 (Counting.around name) Counting.nowhereAbove).map
      (fun outcome => outcome.events.any Counting.Event.evaluates) = some true := by
    rcases List.mem_cons.mp member with rfl | later
    · decide +kernel
    · cases List.mem_singleton.mp later
      decide +kernel
  refine ⟨?_, Option.map_eq_some_iff.mp evaluates⟩
  rcases List.mem_cons.mp member with rfl | later
  · decide
  · cases List.mem_singleton.mp later
    decide

end ActionTree

import ActionTree.Proofs.Findings
import ActionTree.Proofs.Position

/-! What a handler sees when it is dispatched: the bound item and the overridden context, by
the results of the expressions of its action. -/
namespace ActionTree
open Binding (Stack Frame Spec Derivation)
open Focus (start)
variable {H : Host}

def Event.Apart : Event H → Prop
  | .dispatched _ _ _ => False
  | .iterated .interpreter _ _ _ => False
  | _ => True

theorem Event.Apart.together {event : Event H} (apart : event.Apart) : ¬ event.BeginsElement := by
  cases event with
  | iterated caller index result depth =>
    cases caller with
    | interpreter => exact apart.elim
    | handler => exact id
  | _ => exact id

/-- Holds of each dispatch and of the events before it. -/
def EachDispatch (events : List (Event H))
    (P : List (Event H) → Action → Option H.Item → Frame H.Item → Prop) : Prop :=
  ∀ before action overridden? frame after,
    events = before ++ .dispatched action overridden? frame :: after →
      P before action overridden? frame

namespace EachDispatch
variable {P Q : List (Event H) → Action → Option H.Item → Frame H.Item → Prop}

theorem none {events : List (Event H)} (apart : ∀ event ∈ events, event.Apart) :
    EachDispatch events P := by
  rintro before action overridden? frame after rfl
  exact (apart (.dispatched action overridden? frame) (by simp)).elim

theorem append {first second : List (Event H)} (head : EachDispatch first P)
    (tail : EachDispatch second fun before => P (first ++ before)) :
    EachDispatch (first ++ second) P := by
  intro before action overridden? frame after split
  -- The dispatch lies in the second part, or in the first, or is the first event of the second.
  rcases List.append_eq_append_iff.mp split with ⟨middle, rfl, rest⟩ | ⟨middle, whole, rest⟩
  · exact tail middle action overridden? frame after rest
  · cases middle with
    | nil =>
      rw [List.append_nil] at whole
      subst whole
      have here : P (first ++ []) action overridden? frame :=
        tail [] action overridden? frame after rest.symm
      rwa [List.append_nil] at here
    | cons event middle =>
      cases rest
      exact head before action overridden? frame middle whole

theorem mono {events : List (Event H)} (each : EachDispatch events P)
    (weaker : ∀ before action overridden? frame, P before action overridden? frame →
      Q before action overridden? frame) : EachDispatch events Q :=
  fun before action overridden? frame after split =>
    weaker _ _ _ _ (each before action overridden? frame after split)

theorem cons {event : Event H} {rest : List (Event H)} (apart : event.Apart)
    (tail : EachDispatch rest fun before => P (event :: before)) : EachDispatch (event :: rest) P :=
  append (none (List.forall_mem_singleton.mpr apart)) tail

theorem element {caller : Caller} {index : Nat} {result : Except BindingError (Frame H.Item)}
    {depth : Nat} {rest : List (Event H)}
    (tail : EachDispatch rest fun before => P (.iterated caller index result depth :: before)) :
    EachDispatch (.iterated caller index result depth :: rest) P := by
  intro before action overridden? frame after split
  cases before with
  | nil => cases split
  | cons event before =>
    cases split
    exact tail before action overridden? frame after rfl

theorem here {action : Action} {overridden? : Option H.Item} {frame : Frame H.Item}
    {rest : List (Event H)} (holds : P [] action overridden? frame)
    (apart : ∀ event ∈ rest, event.Apart) :
    EachDispatch (.dispatched action overridden? frame :: rest) P := by
  intro before action' overridden?' frame' after split
  cases before with
  | nil =>
    cases split
    exact holds
  | cons event before =>
    cases split
    exact (apart (.dispatched action' overridden?' frame') (by simp)).elim

end EachDispatch
namespace Level
variable {interpreter : Interpreter H} {action : Action} {stack : Stack H.Item}
  {item? overridden? : Option H.Item}

/-- A dispatch right after the request that binds `ref` or `bind`, with no new element begun. -/
structure Aimed (spec : Spec) (action : Action) (stack : Stack H.Item)
    (overridden? : Option H.Item) (before : List (Event H)) (action' : Action)
    (overridden?' : Option H.Item) (frame : Frame H.Item) : Prop where
  same : action' = action
  passed : overridden?' = overridden?
  aimed : ∃ earlier events depth, (∀ event ∈ earlier, ¬ event.BeginsElement) ∧
    Derivation stack spec (.ok frame) events ∧
    before = earlier ++ (events ++ [.pushed .interpreter spec (.ok frame) depth])

theorem Aimed.after {spec : Spec} {events before : List (Event H)} {action' : Action}
    {overridden?' : Option H.Item} {frame : Frame H.Item}
    (together : ∀ event ∈ events, ¬ event.BeginsElement)
    (aimed : Aimed spec action stack overridden? before action' overridden?' frame) :
    Aimed spec action stack overridden? (events ++ before) action' overridden?' frame := by
  obtain ⟨same, passed, earlier, found, depth, others, derivation, rfl⟩ := aimed
  refine ⟨same, passed, events ++ earlier, found, depth, ?_, derivation, (List.append_assoc ..).symm⟩
  exact fun event member => (List.mem_append.mp member).elim (together event) (others event)

theorem checkApart {guard : Guard} {result : Except ActionError Bool} {events : List (Event H)}
    (check : Check interpreter action stack item? guard result events) :
    ∀ event ∈ events, event.Apart := by
  cases check <;> simp [Event.Apart, Interpreter.logged]

theorem clearanceApart {result : Except ActionError Bool} {events : List (Event H)}
    (clearance : Clearance interpreter action stack item? result events) :
    ∀ event ∈ events, event.Apart := by
  cases clearance with
  | first unmet check => exact checkApart check
  | both check next =>
    exact fun event member =>
      (List.mem_append.mp member).elim (checkApart check event) (checkApart next event)

theorem derivationApart {spec : Spec} {result : Except BindingError (Frame H.Item)}
    {events : List (Event H)} (derivation : Derivation stack spec result events) :
    ∀ event ∈ events, event.Apart := by
  intro event member
  obtain ⟨request, answer, rfl⟩ := derivation.evaluates event member
  trivial

theorem targetDispatches {result : Except ActionError Unit} {events : List (Event H)}
    (bound : Bound stack (interpreter.targetSpec action) .binding (Handled action overridden?)
      result events) :
    EachDispatch events (Aimed (interpreter.targetSpec action) action stack overridden?) := by
  cases bound with
  | unbound derivation =>
    exact .append (.none (derivationApart derivation)) (.none (by simp [Event.Apart]))
  | @bound frame _ found _ derivation body =>
    cases body
    refine .append (.none (derivationApart derivation)) ?_
    refine .cons trivial (.here ?_ (by simp [Event.Apart]))
    exact ⟨rfl, rfl, [], found, (stack.push frame).depth, by simp, derivation, by simp⟩

theorem executionDispatches {result : Except ActionError Unit} {events : List (Event H)}
    (execution : Execution interpreter action stack overridden? result events) :
    EachDispatch events (Aimed (interpreter.targetSpec action) action stack overridden?) := by
  have opens (found : Bool) : ∀ event ∈ opening interpreter action found, event.Apart := by
    simp [opening, Event.Apart, Interpreter.logged]
  have later {found : Bool} {events : List (Event H)}
      (each : EachDispatch events (Aimed (interpreter.targetSpec action) action stack overridden?)) :
      EachDispatch (opening interpreter action found ++ events)
        (Aimed (interpreter.targetSpec action) action stack overridden?) :=
    .append (.none (opens found)) (each.mono fun _ _ _ _ aimed =>
      aimed.after fun event member => (opens found event member).together)
  cases execution with
  | unknown unknown => exact .none (opens false)
  | failed found bound => exact later (targetDispatches bound)
  | done found bound =>
    exact later (.append (targetDispatches bound) (.none (by simp [Event.Apart, Interpreter.logged])))

theorem passDispatches {pass? : Option Nat} {result : Except ActionError Bool}
    {events : List (Event H)}
    (passed : Pass interpreter action stack item? overridden? pass? result events) :
    EachDispatch events (Aimed (interpreter.targetSpec action) action stack overridden?) := by
  have later {result : Except ActionError Bool} {events events' : List (Event H)} {ended}
      (clearance : Clearance interpreter action stack item? result events)
      (execution : Execution (within interpreter action pass?) action stack overridden? ended
        events') :
      EachDispatch (events ++ events')
        (Aimed (interpreter.targetSpec action) action stack overridden?) :=
    .append (.none (clearanceApart clearance))
      ((executionDispatches execution).mono fun _ _ _ _ aimed =>
        aimed.after fun event member => (clearanceApart clearance event member).together)
  cases passed with
  | unclear clearance => exact .none (clearanceApart clearance)
  | held clearance => exact .none (clearanceApart clearance)
  | failed clearance execution => exact later clearance execution
  | executed clearance execution => exact later clearance execution

theorem passesDispatches {pass : Nat} {result : Except Interpreter.PlacedError Unit}
    {events : List (Event H)}
    (passes : Passes interpreter action stack item? overridden? pass result events) :
    EachDispatch events (Aimed (interpreter.targetSpec action) action stack overridden?) := by
  induction passes with
  | failed last => exact passDispatches last
  | held last => exact passDispatches last
  | once once last => exact passDispatches last
  | again repeats first rest ih =>
    exact .append (passDispatches first) (ih.mono fun _ _ _ _ aimed =>
      aimed.after (passInOrder first).together)

inductive AimedWithin (spec : Spec) (action : Action) (stack : Stack H.Item) :
    List (Event H) → Action → Option H.Item → Frame H.Item → Prop where
  | within {earlier index element frame depth before action' overridden?' seen}
      (derived : stack.elementFrame index = .ok frame) (here : frame.contextItem? = some element)
      (aimed : Aimed spec action (stack.push frame) (some element) before action' overridden?' seen) :
      AimedWithin spec action stack
        (earlier ++ .iterated .interpreter index (.ok frame) depth :: before) action' overridden?' seen

theorem framedDispatches {element : H.Item} {rest done : List H.Item} {frame : Frame H.Item}
    {result : Except Interpreter.PlacedError Unit} {events : List (Event H)}
    (captured : stack.current.focus.items = done ++ element :: rest)
    (derived : stack.elementFrame (done.length + 1) = .ok frame)
    (passes : Passes interpreter action (stack.push frame) (some element) (some element) 1
      result events) :
    EachDispatch (framed stack (done.length + 1) frame events)
      (AimedWithin (interpreter.targetSpec action) action stack) := by
  have here : frame.contextItem? = some element := by
    rw [(elementItems derived).1, captured]
    simp [Focus.itemAt?]
  refine .element (.append ?_ (.none (by simp [Event.Apart])))
  refine (passesDispatches passes).mono fun before _ _ _ aimed => ?_
  change AimedWithin _ _ _ ([] ++ _ :: before) _ _ _
  exact .within derived here aimed

theorem elementsDispatches {elements : List H.Item} {index : Nat}
    {result : Except Interpreter.PlacedError Unit} {events : List (Event H)}
    (ended : Elements interpreter action stack elements index result events) (done : List H.Item)
    (captured : stack.current.focus.items = done ++ elements) (reached : index = done.length + 1) :
    EachDispatch events (AimedWithin (interpreter.targetSpec action) action stack) := by
  induction ended generalizing done with
  | none => exact .none (by simp)
  | failed derived passes =>
    subst reached
    exact framedDispatches captured derived passes
  | @next element _ _ _ _ _ _ derived passes more ih =>
    subst reached
    refine .append (framedDispatches captured derived passes) ?_
    refine (ih (done ++ [element]) (by simp [captured]) (by simp)).mono fun _ _ _ _ aimed => ?_
    obtain ⟨derived, here, aimed⟩ := aimed
    rw [← List.append_assoc]
    exact .within derived here aimed

end Level
/-- What the attributes of an action came to; those of absent ones do not matter. -/
structure Results (Item : Type) where
  root : List Item
  context : List Item
  element? : Option Item
  ref : List Item
  bind : List Item

namespace Results
variable {Item : Type} (results : Results Item) (action : Action)

/-- The item a handler works on, `current?` being the one in focus outside the action. -/
def bound? (current? : Option Item) : Option Item :=
  if action.bind?.isSome then results.bind.head?
  else if action.ref?.isSome then results.ref.head?
  else if action.iterate?.isSome then results.element?
  else if action.context?.isSome then results.context.head?
  else if action.model?.isSome then results.root.head?
  else current?

def overridden? : Option Item :=
  if action.iterate?.isSome then results.element?
  else if action.context?.isSome then results.context.head?
  else none

end Results

/-- How the results came about before a dispatch: in the request that grounds the action, in the
element that was begun last, and in the request right before. -/
inductive Gathered (interpreter : Interpreter H) (action : Action) (stack : Stack H.Item) :
    Results H.Item → Frame H.Item → List (Event H) → Prop where
  | alone {ground target : Binding.Findings H.Item}
      {frame seen base base' modelId? modelId?' events events' middle depth depth'}
      (plain : action.iterate? = none)
      (grounds : Binding.Finds stack (interpreter.groundSpec action) ground frame events base modelId?)
      (targets : Binding.Finds (stack.push frame) (interpreter.targetSpec action) target seen events'
        base' modelId?') :
      Gathered interpreter action stack
        ⟨ground.root, ground.context, none, target.selected, target.bound⟩ seen
        (events ++ .pushed .interpreter (interpreter.groundSpec action) (.ok frame) depth ::
          (middle ++ (events' ++
            [.pushed .interpreter (interpreter.targetSpec action) (.ok seen) depth'])))
  | element {ground target : Binding.Findings H.Item} {index : Nat}
      {frame element seen base base' modelId? modelId?' events events' earlier middle}
      {depth depth' depth'' : Nat}
      (iterates : action.iterate?.isSome)
      (grounds : Binding.Finds stack (interpreter.groundSpec action) ground frame events base modelId?)
      (derived : (stack.push frame).elementFrame index = .ok element)
      (last : ∀ event ∈ middle, ¬ event.BeginsElement)
      (targets : Binding.Finds ((stack.push frame).push element) (interpreter.targetSpec action)
        target seen events' base' modelId?') :
      Gathered interpreter action stack
        ⟨ground.root, ground.context, Focus.itemAt? ground.selected index, target.selected,
          target.bound⟩ seen
        (events ++ .pushed .interpreter (interpreter.groundSpec action) (.ok frame) depth ::
          (earlier ++ .iterated .interpreter index (.ok element) depth' ::
            (middle ++ (events' ++
              [.pushed .interpreter (interpreter.targetSpec action) (.ok seen) depth'']))))

/-- What the handler of an action sees is decided by the results gathered before its dispatch. -/
def Seen (interpreter : Interpreter H) (action : Action) (stack : Stack H.Item)
    (before : List (Event H)) (action' : Action) (overridden? : Option H.Item)
    (frame : Frame H.Item) : Prop :=
  action' = action ∧ ∃ results, Gathered interpreter action stack results frame before ∧
    overridden? = results.overridden? action ∧
    frame.single? = results.bound? action stack.current.single?

namespace Level
variable {interpreter : Interpreter H} {action : Action} {stack : Stack H.Item}

theorem groundContext {findings : Binding.Findings H.Item} {frame : Frame H.Item}
    {events : List (Event H)} {base : Focus H.Item} {modelId? : Option String}
    (grounds : Binding.Finds stack (interpreter.groundSpec action) findings frame events base
      modelId?) :
    frame.overridden = action.context?.isSome ∧ frame.contextItem? =
      if action.context?.isSome then findings.context.head?
      else if action.model?.isSome then findings.root.head? else stack.current.single? :=
  ⟨by rw [grounds.derived]; rfl, grounds.contextItem⟩

theorem targetSingle {findings : Binding.Findings H.Item} {frame : Frame H.Item}
    {events : List (Event H)} {base : Focus H.Item} {modelId? : Option String}
    (targets : Binding.Finds stack (interpreter.targetSpec action) findings frame events base
      modelId?) :
    frame.single? = if action.bind?.isSome then findings.bound.head?
      else if action.ref?.isSome then findings.selected.head? else stack.current.single? := by
  have item := targets.single
  rw [targets.contextItem] at item
  exact item

theorem bodyDispatches {result : Except Interpreter.PlacedError Unit} {events : List (Event H)}
    (body : Body interpreter action stack result events) :
    EachDispatch events (Seen interpreter action stack) := by
  cases body with
  | unbound derivation =>
    exact .append (.none (derivationApart derivation)) (.none (by simp [Event.Apart]))
  | @bound frame _ events _ derivation content =>
    obtain ⟨ground, base, modelId?, grounds⟩ := derivation.finds
    obtain ⟨overrides, context⟩ := groundContext grounds
    refine .append (.none (derivationApart derivation))
      (.cons trivial (.append ?_ (.none (by simp [Event.Apart]))))
    cases content with
    | single plain passes =>
      -- Without `iterate` the ground selects nothing, so that its context item is in focus too.
      refine (passesDispatches passes).mono fun before action' overridden? seen aimed => ?_
      obtain ⟨same, passed, middle, events', depth, together, derived, rfl⟩ := aimed
      obtain ⟨target, base', modelId?', targets⟩ := derived.finds
      have unselected : frame.single? = frame.contextItem? := by
        rw [grounds.single]
        simp [Interpreter.groundSpec, Spec.anchored, plain]
      refine ⟨same, _, .alone plain grounds targets, ?_, ?_⟩
      · rw [passed, overrides, context]
        cases present : action.context? <;> simp [Results.overridden?, plain, present]
      · rw [targetSingle targets, Stack.currentPush, unselected, context]
        simp [Results.bound?, plain]
    | several iterates elements =>
      -- The result of `iterate` is what the ground focuses on, and elements are taken from it.
      have captured : frame.focus.items = ground.selected := by
        rw [grounds.derived]
        change (ground.settled (interpreter.groundSpec action) base).items = _
        simp [Binding.Findings.settled, Interpreter.groundSpec, Spec.anchored, iterates, start]
      have aims := elementsDispatches elements [] rfl rfl
      refine aims.mono fun before action' overridden? seen aimed => ?_
      obtain ⟨derived, here, same, passed, middle, events', depth, together, derivation', rfl⟩ := aimed
      obtain ⟨target, base', modelId?', targets⟩ := derivation'.finds
      obtain ⟨item, single⟩ := elementItems derived
      rw [here, Stack.currentPush, captured] at item
      refine ⟨same, _, .element iterates grounds derived together targets, ?_, ?_⟩
      · rw [passed, item]
        simp [Results.overridden?, iterates]
      · rw [targetSingle targets, Stack.currentPush, single, here, item]
        simp [Results.bound?, iterates]

end Level
/-- The program in which each look at the current frame is answered with this one. -/
def Program.seeing {α : Type} (frame : Frame H.Item) : Program H α → Program H α
  | .done value => .done value
  | .fail error => .fail error
  | .ask .frame next => (next (.ok frame)).seeing frame
  | .ask call next => .ask call fun answer => (next answer).seeing frame
  | .run action next => .run action fun result => (next result).seeing frame

theorem Program.seeingAsk {α : Type} (frame : Frame H.Item) {call : Call H} (other : call ≠ .frame)
    (next : Except ActionError call.Answer → Program H α) :
    (Program.ask call next).seeing frame = .ask call fun answer => (next answer).seeing frame := by
  cases call with
  | frame => exact absurd rfl other
  | _ => rfl

namespace Interpreter

theorem performSeeing {α : Type} (interpreter : Interpreter H) {run : Action → Run H ActionError Unit}
    (runs : ∀ action, (run action).Keeps fun before _ after => after.stack = before.stack)
    {program : Program H α} (stays : program.Uses fun call => ¬ call.MovesStack)
    (machine : Machine H) :
    interpreter.perform run program machine =
      interpreter.perform run (program.seeing machine.stack.current) machine := by
  -- On the program, over any machine: the state changes on the way, and the frame does not.
  induction program generalizing machine with
  | done value => rfl
  | fail error => rfl
  | ask call next ih =>
    by_cases looks : call = .frame
    · subst looks
      have answered : interpreter.perform run (.ask .frame next) machine =
          (interpreter.perform run (next (.ok machine.stack.current)) machine).map (·.after []) := rfl
      have unchanged : (fun outcome : Outcome H ActionError α => outcome.after []) = id := rfl
      rw [answered, unchanged, Option.map_id_apply]
      exact ih _ (stays.2 _) machine
    · rw [Program.seeingAsk _ looks]
      refine Run.bindCongr fun before answer ran gave => ?_
      obtain ⟨outcome, asked, rfl⟩ := Run.attemptEqSome.mp ran
      cases asked
      have same := (interpreter.quietAnswer stays.1 machine).1
      rw [ih answer (stays.2 answer), same]
  | run action next ih =>
    refine Run.bindCongr fun before result ran gave => ?_
    obtain ⟨outcome, ended, rfl⟩ := Run.attemptEqSome.mp ran
    have same := runs action machine outcome ended
    rw [ih result (stays result), same]

/-- As long as it runs, the handler of an action sees the frame that it started in. -/
def SightKept (interpreter : Interpreter H) (action : Action) : Prop :=
  ∀ fuel spans overridden? handler machine, interpreter.handlerFor action.name = some handler →
    let program := handler (interpreter.dispatch action overridden?)
    let inside := { interpreter with spans }
    inside.perform (runAction fuel inside) program machine =
      inside.perform (runAction fuel inside) (program.seeing machine.stack.current) machine

theorem handlerSight {interpreter : Interpreter H} (stay : interpreter.HandlersStay)
    {fuel : Nat} {action : Action} {machine : Machine H} {outcome : Outcome H ActionError Unit}
    (ended : interpreter.runAction fuel action machine = some outcome) :
    ∃ inner, outcome.events = .entered action :: (inner ++ [.left action outcome.result]) ∧
      EachDispatch (own inner) (Seen interpreter action machine.stack) ∧
      interpreter.SightKept action := by
  have restore := restoreOfStay stay
  obtain ⟨inner, result, events, _, body, _⟩ :=
    runActionTold (P := fun _ _ _ => True) restore (fun _ _ _ _ _ _ => trivial) ended
  refine ⟨inner, events, Level.bodyDispatches body, ?_⟩
  intro fuel spans overridden? handler machine found
  exact performSeeing { interpreter with spans } (runActionStack restore fuel spans)
    (stay action overridden? handler found) machine

end Interpreter

def Counting.bound : Action :=
  action "watch" [("ref", "all"), ("iterate", "all"), ("context", "more")] []

def Counting.sights (outcome : Outcome Counting.host ActionError Unit) :
    List (Option Nat × Option Nat) :=
  (own outcome.events).filterMap fun
    | .dispatched _ overridden? frame => some (overridden?, frame.single?)
    | _ => none

theorem Interpreter.handlerSightInElements : ∃ outcome,
    Counting.interpreter.runAction 3 Counting.bound Counting.machine = some outcome ∧
      Counting.sights outcome = [(some 1, some 1), (some 2, some 1)] ∧
      ∃ inner, outcome.events =
          .entered Counting.bound :: (inner ++ [.left Counting.bound outcome.result]) ∧
        EachDispatch (own inner) (Seen Counting.interpreter Counting.bound Counting.machine.stack) ∧
        Counting.interpreter.SightKept Counting.bound := by
  have seen : (Counting.interpreter.runAction 3 Counting.bound Counting.machine).map Counting.sights =
      some [(some 1, some 1), (some 2, some 1)] := by decide +kernel
  obtain ⟨outcome, ended, sights⟩ := Option.map_eq_some_iff.mp seen
  exact ⟨outcome, ended, sights, handlerSight Counting.handlersStay ended⟩

end ActionTree

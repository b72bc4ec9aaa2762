import ActionTree.Proofs.Level
import ActionTree.Proofs.Restoration

/-! Every run of an action is one that its level tells of, when executions of handlers leave
the frames as they found them. -/
namespace ActionTree
open Binding (Stack Frame Spec)
variable {H : Host} {ε ε' α β : Type}

def Settled (before : Machine H) (events : List (Event H)) (after : Machine H) : Prop :=
  after.stack = before.stack ∧ Nested (fun _ _ _ => True) events

namespace Run

/-- Every run that starts over this stack ends over it, with a result and with events that show
what the relation says. -/
def Tells (run : Run H ε α) (stack : Stack H.Item)
    (relation : Except ε α → List (Event H) → Prop) : Prop :=
  ∀ machine outcome, machine.stack = stack → run machine = some outcome →
    outcome.machine.stack = stack ∧
      ∃ shown, Shows outcome.events shown ∧ relation outcome.result shown

variable {stack : Stack H.Item} {relation : Except ε α → List (Event H) → Prop}

theorem tellsPure {value : α} (holds : relation (.ok value) []) :
    Tells (pure value : Run H ε α) stack relation := by
  intro machine outcome upon ended
  cases ended
  exact ⟨upon, [], .nil, holds⟩

theorem tellsFail {error : ε} (holds : relation (.error error) []) :
    Tells (Steps.fail error : Run H ε α) stack relation := by
  intro machine outcome upon ended
  cases ended
  exact ⟨upon, [], .nil, holds⟩

theorem tellsQuiet {act : Act H ε α} (quiet : act.Keeps QuietStep)
    (holds : ∀ machine, machine.stack = stack → relation (act machine).result (act machine).events) :
    (ofAct act).Tells stack relation := by
  intro machine outcome upon ended
  cases ended
  have kept := quiet machine
  exact ⟨kept.1.trans upon, _, Shows.quiet kept.2, holds machine upon⟩

theorem tellsMono {run : Run H ε α} {relation' : Except ε α → List (Event H) → Prop}
    (tells : run.Tells stack relation)
    (weaker : ∀ result shown, relation result shown → relation' result shown) :
    run.Tells stack relation' := by
  intro machine outcome upon ended
  obtain ⟨same, shown, shows', told⟩ := tells machine outcome upon ended
  exact ⟨same, shown, shows', weaker _ _ told⟩

theorem tellsBind {first : Run H ε α} {next : α → Run H ε β}
    {relation' : Except ε β → List (Event H) → Prop} (tells : first.Tells stack relation)
    (stops : ∀ error shown, relation (.error error) shown → relation' (.error error) shown)
    (goes : ∀ value shown, relation (.ok value) shown →
      (next value).Tells stack fun result shown' => relation' result (shown ++ shown')) :
    (first >>= next).Tells stack relation' := by
  intro machine outcome upon ended
  obtain ⟨before, ran, continued⟩ := bindEqSome.mp ended
  obtain ⟨same, shown, shows', told⟩ := tells machine before upon ran
  rcases continued with ⟨error, failed, rfl⟩ | ⟨value, rest, gave, continued, rfl⟩
  · rw [failed] at told
    exact ⟨same, shown, shows', stops error shown told⟩
  · rw [gave] at told
    obtain ⟨same', shown', shows'', told'⟩ := goes value shown told before.machine rest same continued
    exact ⟨same', shown ++ shown', shows'.append shows'', told'⟩

theorem tellsBindMapError {first : Run H ε α} {change : ε → ε'} {next : α → Run H ε' β}
    {relation' : Except ε' β → List (Event H) → Prop} (tells : first.Tells stack relation)
    (stops : ∀ error shown, relation (.error error) shown → relation' (.error (change error)) shown)
    (goes : ∀ value shown, relation (.ok value) shown →
      (next value).Tells stack fun result shown' => relation' result (shown ++ shown')) :
    (first.mapError change >>= next).Tells stack relation' := by
  have changed : (first.mapError change).Tells stack fun result shown =>
      ∃ inner, relation inner shown ∧ result = inner.mapError change := by
    intro machine outcome upon ended
    obtain ⟨before, ran, rfl⟩ := mapErrorEqSome.mp ended
    obtain ⟨same, shown, shows', told⟩ := tells machine before upon ran
    exact ⟨same, shown, shows', before.result, told, rfl⟩
  refine tellsBind changed ?_ ?_
  · rintro error shown ⟨inner | inner, told, same⟩
    · cases same
      exact stops inner shown told
    · cases same
  · rintro value shown ⟨inner | inner, told, same⟩
    · cases same
    · cases same
      exact goes value shown told

theorem tellsRecord {event : Event H} (quiet : event.Quiet) {next : Unit → Run H ε α}
    (tells : (next ()).Tells stack fun result shown => relation result (event :: shown)) :
    (Steps.record event >>= next).Tells stack relation := by
  have told : Tells (Steps.record event : Run H ε Unit) stack fun result shown =>
      result = .ok () ∧ shown = [event] :=
    tellsQuiet (Act.Plain.record quiet).quiet fun _ _ => ⟨rfl, rfl⟩
  refine tellsBind told ?_ ?_
  · rintro error shown ⟨failed, _⟩
    cases failed
  · rintro value shown ⟨_, rfl⟩
    exact tells

end Run

namespace Interpreter

theorem evaluateEq (interpreter : Interpreter H) (purpose : Purpose) (mode : Mode) (action : Action)
    (focus : Focus H.Item) (expression : String) (machine : Machine H) :
    interpreter.evaluate purpose mode action focus expression machine =
      (let request := interpreter.request action machine.stack.current focus expression
      let answer := interpreter.evaluator mode request machine.state
      ⟨answer.1.mapError .evaluation, { machine with state := answer.2 },
        [.evaluated purpose mode request answer.1]⟩) := rfl

def guardResult (guard : Guard) (expression : String) :
    Except EvalError (List H.Item) → Except ActionError GuardOutcome
  | .error error => .error (.evaluation error)
  | .ok items => match items.head?.bind H.truth? with
      | none => .error (.notBoolean guard expression)
      | some true => .ok .passed
      | some false => .ok .evaluatedFalse

def guardEvents (interpreter : Interpreter H) (action : Action) (guard : Guard) (expression : String)
    (request : Request H.Item) (answer : Except EvalError (List H.Item)) : List (Event H) :=
  .evaluated .guard .items request answer ::
    (match guardResult guard expression answer with
      | .ok .evaluatedFalse =>
          [interpreter.logged (.skipped action.name guard (.evaluatedFalse expression))]
      | _ => [])

theorem checkGuardEq (interpreter : Interpreter H) (action : Action) (guard : Guard)
    (expression : String) (item : H.Item) (machine : Machine H) :
    interpreter.checkGuard action guard expression (some item) machine =
      (let request := Level.guardRequest interpreter action machine.stack expression item
      let answer := interpreter.evaluator .items request machine.state
      ⟨guardResult guard expression answer.1, { machine with state := answer.2 },
        guardEvents interpreter action guard expression request answer.1⟩) := by
  change Act.bind (interpreter.evaluate .guard .items action ⟨[item], 1⟩ s!"boolean({expression})")
    _ machine = _
  unfold Act.bind
  rw [evaluateEq]
  change _ = (⟨_, _, guardEvents interpreter action guard expression _ _⟩ : Outcome H _ _)
  dsimp only [Level.guardRequest]
  generalize interpreter.evaluator .items _ machine.state = answer
  obtain ⟨answer, state⟩ := answer
  cases answer with
  | error error => rfl
  | ok items =>
    change (Outcome.after ((match (List.head? items).bind H.truth? with
      | none => _
      | some true => _
      | some false => _ : Act H ActionError GuardOutcome) _) _) = _
    simp only [guardEvents, guardResult]
    cases (List.head? items).bind H.truth? with
    | none => rfl
    | some truth => cases truth <;> rfl

theorem admitsTold (interpreter : Interpreter H) (action : Action) (item? : Option H.Item)
    (guard : Guard) (machine : Machine H) :
    Level.Check interpreter action machine.stack item? guard
      (interpreter.admits action item? guard machine).result
      (interpreter.admits action item? guard machine).events := by
  cases present : action.guard? guard with
  | none =>
    simp only [admits, present]
    exact .absent present
  | some expression =>
    simp only [admits, present]
    have mapped := Binding.mapResult (interpreter.checkGuard action guard expression item?)
      (fun outcome => decide (outcome = .passed)) machine
    rw [mapped.1, mapped.2]
    cases item? with
    | none => exact .missing present rfl
    | some item =>
      rw [checkGuardEq]
      dsimp only
      generalize interpreter.evaluator .items _ machine.state = answer
      obtain ⟨answer, state⟩ := answer
      cases answer with
      | error error => exact .failed present rfl
      | ok items =>
        simp only [guardEvents, guardResult]
        cases truth : items.head?.bind H.truth? with
        | none =>
          exact .undecided present rfl truth
        | some value =>
          cases value with
          | true =>
            exact .holds present rfl truth
          | false =>
            exact .fails present rfl truth

theorem admitsTells (interpreter : Interpreter H) (action : Action) (item? : Option H.Item)
    (guard : Guard) (stack : Stack H.Item) :
    (Run.ofAct (interpreter.admits action item? guard)).Tells stack
      (Level.Check interpreter action stack item? guard) := by
  refine Run.tellsQuiet (interpreter.plainAdmits action item? guard).quiet ?_
  rintro machine rfl
  exact interpreter.admitsTold action item? guard machine

theorem underTells {interpreter : Interpreter H} {spec : Spec} {change : BindingError → ε}
    {inside : Frame H.Item → Except ε Unit → List (Event H) → Prop} {body : Run H ε Unit}
    {stack : Stack H.Item} (tells : ∀ frame, body.Tells (stack.push frame) (inside frame)) :
    (interpreter.under ((Binding.push interpreter.evaluator .interpreter spec).mapError change)
      body).Tells stack (Level.Bound stack spec change inside) := by
  rintro machine outcome rfl ended
  obtain ⟨state, result, events, derivation, quiet, pushed⟩ :=
    Binding.pushSound interpreter.evaluator .interpreter spec machine
  rw [underEq] at ended
  unfold Act.mapError at ended
  rw [pushed] at ended
  cases result with
  | error error =>
    cases ended
    have shown := (Shows.quiet quiet).append (Shows.single
      (.pushed .interpreter spec (.error error) machine.stack.depth) (by simp))
    exact ⟨rfl, _, shown, .unbound derivation⟩
  | ok frame =>
    obtain ⟨inner, ran, rfl⟩ := Option.map_eq_some_iff.mp ended
    obtain ⟨same, shown, shows', holds⟩ := tells frame _ inner rfl ran
    have opened := (Shows.quiet quiet).append (Shows.single
      (.pushed .interpreter spec (.ok frame) (machine.stack.push frame).depth) (by simp))
    have closed := shows'.append (Shows.single
      (.popped .interpreter machine.stack.depth) (by simp))
    -- The depths are those of the stack outside, because the body ended where it had begun.
    have regrouped := List.append_cons events
      (.pushed .interpreter spec (.ok frame) (machine.stack.push frame).depth)
      (shown ++ [.popped .interpreter machine.stack.depth])
    refine ⟨congrArg Stack.pop same, _, ?_, .bound derivation holds⟩
    rw [Binding.popEq, same, regrouped]
    exact opened.append closed

section
variable {interpreter : Interpreter H} {action : Action}
  {run : Interpreter H → Action → Run H ActionError Unit} {overridden? item? : Option H.Item}

theorem handleTells {handler : Handler H} (settled : (interpreter.perform (run interpreter)
      (handler (interpreter.dispatch action overridden?))).Keeps Settled) (stack : Stack H.Item) :
    (handle run interpreter action handler overridden?).Tells stack
      (Level.Handled action overridden? stack.current) := by
  rintro machine outcome rfl ended
  rw [handle, inExecutionEq] at ended
  obtain ⟨inner, ran, rfl⟩ := Option.map_eq_some_iff.mp ended
  obtain ⟨same, nested⟩ := settled machine inner ran
  exact ⟨same, _, Shows.execution nested action overridden? machine.stack.current inner.result,
    .handled⟩

theorem executeTells (settled : Executions run interpreter action (·.Keeps Settled))
    (spans : List Span) (stack : Stack H.Item) :
    (execute run { interpreter with spans } action overridden?).Tells stack
      (Level.Execution { interpreter with spans } action stack overridden?) := by
  refine Run.tellsRecord (by simp [logged, Event.Quiet]) (Run.tellsRecord (by trivial) ?_)
  cases found : interpreter.handlerFor action.name with
  | none => exact Run.tellsFail (.unknown found)
  | some handler =>
    refine Run.tellsBind (underTells fun frame => handleTells (settled spans _ handler found) _) ?_ ?_
    · intro error shown bound
      exact .failed found bound
    · rintro ⟨⟩ shown bound
      refine Run.tellsQuiet (Act.Plain.record (by simp [logged, Event.Quiet])).quiet fun _ _ => ?_
      exact .done found bound

theorem runPassTells {pass? : Option Nat}
    (settled : Executions run interpreter action (·.Keeps Settled)) (stack : Stack H.Item) :
    (runPass run interpreter action item? overridden? pass?).Tells stack
      (Level.Pass interpreter action stack item? overridden? pass?) := by
  refine Run.tellsBind (interpreter.admitsTells action item? .onlyIf stack) ?_ ?_
  · intro error shown check
    exact .unclear (.first (by simp) check)
  rintro (_ | _) shown check
  · exact Run.tellsPure (.held (by simpa using .first (by simp) check))
  refine Run.tellsBind (interpreter.admitsTells action item? .asLongAs stack) ?_ ?_
  · intro error shown' check'
    exact .unclear (.both check check')
  rintro (_ | _) shown' check'
  · exact Run.tellsPure (.held (by simpa using .both check check'))
  refine Run.tellsBind (executeTells settled _ stack) ?_ ?_
  · intro error shown'' execution
    rw [← List.append_assoc]
    exact .failed (.both check check') execution
  · intro value shown'' execution
    refine Run.tellsPure ?_
    rw [List.append_nil, ← List.append_assoc]
    exact .executed (.both check check') execution

theorem runPassesTells (settled : Executions run interpreter action (·.Keeps Settled))
    (stack : Stack H.Item) (fuel pass : Nat) :
    (runPasses run interpreter action item? overridden? fuel pass).Tells stack
      (Level.Passes interpreter action stack item? overridden? pass) := by
  induction fuel generalizing pass with
  | zero => intro machine outcome upon ended; cases ended
  | succ fuel ih =>
    refine Run.tellsBindMapError (runPassTells settled stack) ?_ ?_
    · intro error shown passed
      exact .failed passed
    rintro (_ | _) shown passed
    · exact Run.tellsPure (by simpa using .held passed)
    cases repeats : action.guard? .asLongAs with
    | none => exact Run.tellsPure (by simpa using .once repeats passed)
    | some expression =>
      exact Run.tellsMono (ih (pass + 1)) fun _ _ passes => .again (by simp [repeats]) passed passes

theorem underElementTells {stack : Stack H.Item} {index : Nat} {frame : Frame H.Item}
    {change : BindingError → ε} {inside : Except ε Unit → List (Event H) → Prop} {body : Run H ε Unit}
    (derived : stack.elementFrame index = .ok frame) (tells : body.Tells (stack.push frame) inside) :
    (interpreter.under ((Binding.pushElement .interpreter index).mapError change) body).Tells stack
      fun result shown => ∃ events, inside result events ∧
        shown = Level.framed stack index frame events := by
  rintro machine outcome rfl ended
  rw [underEq] at ended
  unfold Act.mapError at ended
  rw [Binding.pushElementEq, derived] at ended
  obtain ⟨inner, ran, rfl⟩ := Option.map_eq_some_iff.mp ended
  obtain ⟨same, shown, shows', holds⟩ := tells _ inner rfl ran
  have opened := Shows.single
    (.iterated .interpreter index (.ok frame) (machine.stack.push frame).depth) (by simp)
  have closed := shows'.append (Shows.single
    (.popped .interpreter machine.stack.depth) (by simp))
  refine ⟨congrArg Stack.pop same, _, ?_, shown, holds, rfl⟩
  rw [Binding.popEq, same]
  exact opened.append closed

theorem runElementsTells (settled : Executions run interpreter action (·.Keeps Settled))
    {stack : Stack H.Item} {fuel : Nat} (elements done : List H.Item)
    (captured : stack.current.focus.items = done ++ elements) :
    (runElements run interpreter action fuel elements (done.length + 1)).Tells stack
      (Level.Elements interpreter action stack elements (done.length + 1)) := by
  -- An element is pushed by its index, which stays in range since `done` and what is left make up
  -- the sequence in focus.
  induction elements generalizing done with
  | nil => exact Run.tellsPure .none
  | cons element rest ih =>
    obtain ⟨frame, derived⟩ : ∃ frame, stack.elementFrame (done.length + 1) = .ok frame := by
      simp [Stack.elementFrame, Focus.InRange, captured]
    refine Run.tellsBindMapError (underElementTells derived
      (runPassesTells settled (stack.push frame) fuel 1)) ?_ ?_
    · rintro error shown ⟨events, passed, rfl⟩
      exact .failed derived passed
    · rintro value shown ⟨events, passed, rfl⟩
      have more := ih (done ++ [element]) (by simp [captured])
      simp only [List.length_append, List.length_singleton] at more
      exact Run.tellsMono more fun _ _ told => .next derived passed told

theorem runBodyTells (interpreter : Interpreter H)
    (settled : Executions run interpreter action (·.Keeps Settled)) (stack : Stack H.Item)
    (fuel : Nat) : (runBody run interpreter action fuel).Tells stack
      (Level.Body interpreter action stack) := by
  refine underTells fun frame machine outcome upon ended => ?_
  have current : machine.stack.current = frame := by rw [upon]; rfl
  rw [runGrounded, Run.frameBind, current] at ended
  cases iterates : action.iterate? with
  | some expression =>
    simp only [iterates, Option.isSome_some] at ended
    obtain ⟨same, shown, shows', told⟩ :=
      runElementsTells settled frame.focus.items [] rfl machine outcome upon ended
    exact ⟨same, shown, shows', .several (by simp [iterates]) told⟩
  | none =>
    simp only [iterates] at ended
    obtain ⟨same, shown, shows', told⟩ :=
      runPassesTells settled _ fuel 1 machine outcome upon ended
    exact ⟨same, shown, shows', .single iterates told⟩

end

variable {interpreter : Interpreter H}

-- Frames and declarations are all there is to a stack.
theorem sameStack {before after : Machine H} {events : List (Event H)}
    (frames : after.stack.frames = before.stack.frames)
    (declared : SameDeclarations before events after) :
    after.stack = before.stack := by
  obtain ⟨root, pushed⟩ := (framesEqIff _ _).mp frames
  obtain ⟨models, binds⟩ := declared
  cases afterStack : after.stack
  cases beforeStack : before.stack
  simp_all

theorem runActionStack (restore : interpreter.HandlersRestore) (fuel : Nat) (spans : List Span)
    (action : Action) : (runAction fuel { interpreter with spans } action).Keeps
      fun before _ after => after.stack = before.stack := fun machine outcome ended =>
  sameStack (runActionRestored restore fuel spans action machine outcome ended).1
    (runActionDeclarations fuel _ action machine outcome ended)

theorem performSettled (restore : interpreter.HandlersRestore) (fuel : Nat) (action : Action) :
    Executions (runAction fuel) interpreter action (·.Keeps Settled) := by
  intro spans overridden? handler found machine outcome ended
  have frames := restore fuel action spans overridden? handler found machine outcome ended
  have declared := performKeeps declarationsInvariant.toChained { interpreter with spans }
    (fun call _ => answerDeclarations _ call) (runActionDeclarations fuel _)
    (Program.usesAny (fun _ => trivial) _) machine outcome ended
  exact ⟨sameStack frames declared, performNested { interpreter with spans }
    (runActionBrackets interpreter fuel spans) _ machine outcome ended⟩

theorem bodyTold (restore : interpreter.HandlersRestore) {fuel : Nat} {spans : List Span}
    {action : Action} {machine : Machine H} {body : Outcome H PlacedError Unit}
    (ran : runBody (runAction fuel) { interpreter with spans } action (fuel + 1) machine = some body) :
    body.machine.stack = machine.stack ∧
      Level.Body { interpreter with spans } action machine.stack body.result (own body.events) := by
  have tells := runBodyTells { interpreter with spans } (performSettled restore fuel action)
    machine.stack (fuel + 1)
  obtain ⟨same, shown, shows', told⟩ := tells machine body rfl ran
  rw [shows'.own]
  exact ⟨same, told⟩

theorem runActionTold (restore : interpreter.HandlersRestore)
    {P : Action → List (Event H) → Except ActionError Unit → Prop}
    (levels : ∀ spans action stack result events,
      Level.Body { interpreter with spans } action stack result (own events) →
      P action events (placed action result))
    {fuel : Nat} {action : Action} {machine : Machine H} {outcome : Outcome H ActionError Unit}
    (ended : interpreter.runAction fuel action machine = some outcome) :
    ∃ inner result, outcome.events = .entered action :: (inner ++ [.left action outcome.result]) ∧
      outcome.result = placed action result ∧
      Level.Body interpreter action machine.stack result (own inner) ∧ Nested P inner := by
  cases fuel with
  | zero => cases ended
  | succ fuel =>
    have runs (spans : List Span) (nested : Action) := runActionNested interpreter
      (fun _ _ _ _ _ ran => levels _ _ _ _ _ (bodyTold restore ran).2) fuel spans nested
    rw [runActionEq] at ended
    obtain ⟨body, ran, rfl⟩ := Option.map_eq_some_iff.mp ended
    refine ⟨body.events, body.result, rfl, rfl, (bodyTold restore ran).2, ?_⟩
    -- Levels inside are those of runs by handlers, with less fuel.
    exact bodyKeeps nestedInvariant (fun spans _ _ _ => performNested _ (runs spans) _) _ _ machine
      body ran

end Interpreter
end ActionTree

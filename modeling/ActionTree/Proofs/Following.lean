import ActionTree.Proofs.Course
import ActionTree.Proofs.Telling

/-! Every run of an action follows its course, whatever handlers do to the stack. -/
namespace ActionTree
open Binding (Stack Frame Spec)
variable {H : Host} {ε ε' α β : Type}

namespace Run

/-- Every result of the run, started over this stack, comes with events that lead to it in the
course. -/
def Follows (run : Run H ε α) (stack : Stack H.Item)
    (course : Except ε α → List (Event H) → Prop) : Prop :=
  ∀ machine outcome, machine.stack = stack → run machine = some outcome →
    course outcome.result outcome.events

variable {stack : Stack H.Item} {course : Except ε α → List (Event H) → Prop}

theorem followsAct {act : Act H ε α} (holds : ∀ machine, machine.stack = stack →
    course (act machine).result (act machine).events) : (ofAct act).Follows stack course := by
  intro machine outcome upon ended
  cases ended
  exact holds machine upon

theorem followsPure {value : α} (holds : course (.ok value) []) :
    (pure value : Run H ε α).Follows stack course :=
  followsAct fun _ _ => holds

theorem followsBind {first : Run H ε α} {next : α → Run H ε β}
    {course' : Except ε β → List (Event H) → Prop} (follows : first.Follows stack course)
    (stops : ∀ error events, course (.error error) events → course' (.error error) events)
    (goes : ∀ value events, course (.ok value) events → ∀ stack,
      (next value).Follows stack fun result events' => course' result (events ++ events')) :
    (first >>= next).Follows stack course' := by
  intro machine outcome upon ended
  obtain ⟨before, ran, continued⟩ := bindEqSome.mp ended
  have followed := follows machine before upon ran
  rcases continued with ⟨error, failed, rfl⟩ | ⟨value, rest, gave, continued, rfl⟩
  · rw [failed] at followed
    exact stops error before.events followed
  · rw [gave] at followed
    exact goes value before.events followed _ before.machine rest rfl continued

theorem followsQuiet {act : Act H ε α} {next : α → Run H ε β}
    {course' : Except ε β → List (Event H) → Prop} (quiet : act.Keeps QuietStep)
    (holds : ∀ machine, machine.stack = stack → course (act machine).result (act machine).events)
    (stops : ∀ error events, course (.error error) events → course' (.error error) events)
    (goes : ∀ value events, course (.ok value) events →
      (next value).Follows stack fun result events' => course' result (events ++ events')) :
    (ofAct act >>= next).Follows stack course' := by
  intro machine outcome upon ended
  obtain ⟨before, ran, continued⟩ := bindEqSome.mp ended
  cases ran
  have followed := holds machine upon
  rcases continued with ⟨error, failed, rfl⟩ | ⟨value, rest, gave, continued, rfl⟩
  · rw [failed] at followed
    exact stops error _ followed
  · rw [gave] at followed
    exact goes value _ followed _ rest ((quiet machine).1.trans upon) continued

theorem followsMapError {run : Run H ε α} {change : ε → ε'} (follows : run.Follows stack course) :
    (run.mapError change).Follows stack fun result events =>
      ∃ inner, course inner events ∧ result = inner.mapError change := by
  intro machine outcome upon ended
  obtain ⟨before, ran, rfl⟩ := mapErrorEqSome.mp ended
  exact ⟨before.result, follows machine before upon ran, rfl⟩

theorem followsRecord {event : Event H} {next : Unit → Run H ε α}
    (follows : (next ()).Follows stack fun result events => course result (event :: events)) :
    (Steps.record event >>= next).Follows stack course := by
  intro machine outcome upon ended
  obtain ⟨before, ran, ⟨_, failed, _⟩ | ⟨_, rest, _, continued, rfl⟩⟩ := bindEqSome.mp ended
  · cases ran
    cases failed
  · cases ran
    exact follows _ rest upon continued

theorem followsMono {run : Run H ε α} {course' : Except ε α → List (Event H) → Prop}
    (follows : run.Follows stack course)
    (weaker : ∀ result events, course result events → course' result events) :
    run.Follows stack course' := fun machine outcome upon ended =>
  weaker _ _ (follows machine outcome upon ended)

end Run
namespace Interpreter
open Course
variable {interpreter : Interpreter H}

theorem performFollows (interpreter : Interpreter H) {run : Action → Run H ActionError Unit}
    {course : Action → Except ActionError Unit → List (Event H) → Prop}
    (runs : ∀ action stack, (run action).Follows stack (course action)) (program : Program H α)
    (stack : Stack H.Item) :
    (interpreter.perform run program).Follows stack (Performed interpreter course program) := by
  induction program generalizing stack with
  | done value => exact Run.followsPure .done
  | fail error => exact Run.followsAct fun _ _ => .fail
  | ask call next ih =>
    intro machine outcome _ ended
    obtain ⟨before, asked, ⟨_, failed, _⟩ | ⟨answer, rest, gave, continued, rfl⟩⟩ :=
      Run.bindEqSome.mp ended
    · obtain ⟨_, _, rfl⟩ := Run.attemptEqSome.mp asked
      cases failed
    · obtain ⟨answered, same, rfl⟩ := Run.attemptEqSome.mp asked
      cases same
      cases gave
      exact .ask machine (ih _ _ _ rest rfl continued)
  | run action next ih =>
    intro machine outcome upon ended
    obtain ⟨before, ran, ⟨_, failed, _⟩ | ⟨result, rest, gave, continued, rfl⟩⟩ :=
      Run.bindEqSome.mp ended
    · obtain ⟨_, _, rfl⟩ := Run.attemptEqSome.mp ran
      cases failed
    · obtain ⟨inner, same, rfl⟩ := Run.attemptEqSome.mp ran
      cases gave
      exact .run (runs action stack machine inner upon same) (ih _ _ _ rest rfl continued)

section
variable {opens : Except BindingError (Frame H.Item) → List (Event H) → Prop}
  {change : BindingError → ε} {inside : Frame H.Item → Except ε Unit → List (Event H) → Prop}
  {body : Run H ε Unit} {stack : Stack H.Item}

theorem underFollows {enter : Act H BindingError Unit} (opened : ∀ machine, machine.stack = stack →
      ∃ state result events, opens result events ∧
        enter machine = ⟨result.map fun _ => (), ⟨state, stack.after result⟩, events⟩)
    (follows : ∀ frame, body.Follows (stack.push frame) (inside frame)) :
    (interpreter.under (enter.mapError change) body).Follows stack
      (Framed interpreter opens change inside) := by
  intro machine outcome upon ended
  obtain ⟨state, result, events, opens, entered⟩ := opened machine upon
  rw [underEq] at ended
  unfold Act.mapError at ended
  rw [entered] at ended
  cases result with
  | error error =>
    cases ended
    exact .refused opens
  | ok frame =>
    obtain ⟨inner, ran, rfl⟩ := Option.map_eq_some_iff.mp ended
    exact .framed inner.machine.stack opens (follows frame _ inner rfl ran)

theorem underSpecFollows {spec : Spec}
    (follows : ∀ frame, body.Follows (stack.push frame) (inside frame)) :
    (interpreter.under ((Binding.push interpreter.evaluator .interpreter spec).mapError change)
      body).Follows stack (Framed interpreter (Requested spec) change inside) := by
  refine underFollows (fun machine upon => ?_) follows
  subst upon
  obtain ⟨state, result, events, derivation, _, pushed⟩ :=
    Binding.pushSound interpreter.evaluator .interpreter spec machine
  exact ⟨state, result, _, .requested derivation, pushed⟩

theorem underElementFollows {index : Nat}
    (follows : ∀ frame, body.Follows (stack.push frame) (inside frame)) :
    (interpreter.under ((Binding.pushElement .interpreter index).mapError change) body).Follows stack
      (Framed interpreter (Indexed index) change inside) := by
  refine underFollows (fun machine upon => ?_) follows
  subst upon
  exact ⟨machine.state, _, _, .indexed machine.stack, Binding.pushElementEq .interpreter index machine⟩

end
section
variable {action : Action} {run : Interpreter H → Action → Run H ActionError Unit}
  {execution : List Span → Program H Unit → Except ActionError Unit → List (Event H) → Prop}
  {item? overridden? : Option H.Item}

/-- Executions of the handler of an action come to what is said of its program. -/
def ExecutionsFollow (run : Interpreter H → Action → Run H ActionError Unit)
    (interpreter : Interpreter H) (action : Action)
    (execution : List Span → Program H Unit → Except ActionError Unit → List (Event H) → Prop) : Prop :=
  ∀ spans overridden? handler, interpreter.handlerFor action.name = some handler →
    ∀ stack, ({ interpreter with spans }.perform (run { interpreter with spans })
      (handler (interpreter.dispatch action overridden?))).Follows stack
        (execution spans (handler (interpreter.dispatch action overridden?)))

theorem handleFollows {handler : Handler H} {stack : Stack H.Item}
    (performed : (interpreter.perform (run interpreter)
      (handler (interpreter.dispatch action overridden?))).Follows stack
        (execution interpreter.spans (handler (interpreter.dispatch action overridden?)))) :
    (handle run interpreter action handler overridden?).Follows stack
      (Handled interpreter action execution handler overridden? stack.current) := by
  intro machine outcome upon ended
  rw [handle, inExecutionEq] at ended
  obtain ⟨inner, ran, rfl⟩ := Option.map_eq_some_iff.mp ended
  rw [← upon] at performed ⊢
  exact .handled (performed machine inner rfl ran)

theorem executeFollows (executions : ExecutionsFollow run interpreter action execution)
    (spans : List Span) (stack : Stack H.Item) :
    (execute run { interpreter with spans } action overridden?).Follows stack
      (Executed { interpreter with spans } action execution overridden?) := by
  refine Run.followsRecord (Run.followsRecord ?_)
  cases found : interpreter.handlerFor action.name with
  | none => exact Run.followsAct fun _ _ => .unknown found
  | some handler =>
    refine Run.followsBind (underSpecFollows fun frame =>
      handleFollows (executions spans _ handler found _)) ?_ ?_
    · intro error events framed
      exact .failed found framed
    · rintro ⟨⟩ events framed stack
      exact Run.followsAct fun _ _ => .done found framed

theorem runPassFollows {pass? : Option Nat}
    (executions : ExecutionsFollow run interpreter action execution) (stack : Stack H.Item) :
    (runPass run interpreter action item? overridden? pass?).Follows stack
      (Passed interpreter action execution item? overridden? pass?) := by
  have checked (guard : Guard) (machine : Machine H) (upon : machine.stack = stack) :
      Level.Check interpreter action stack item? guard
        (interpreter.admits action item? guard machine).result
        (interpreter.admits action item? guard machine).events := by
    subst upon
    exact interpreter.admitsTold action item? guard machine
  refine Run.followsQuiet (interpreter.plainAdmits action item? .onlyIf).quiet (checked .onlyIf) ?_ ?_
  · intro error events check
    exact .unclear (.first (by simp) check)
  rintro (_ | _) events check
  · exact Run.followsPure (.held (by simpa using .first (by simp) check))
  refine Run.followsQuiet (interpreter.plainAdmits action item? .asLongAs).quiet
    (checked .asLongAs) ?_ ?_
  · intro error events' check'
    exact .unclear (.both check check')
  rintro (_ | _) events' check'
  · exact Run.followsPure (.held (by simpa using .both check check'))
  refine Run.followsBind (executeFollows executions _ stack) ?_ ?_
  · intro error events'' executed
    rw [← List.append_assoc]
    exact .failed (.both check check') executed
  · intro value events'' executed stack
    refine Run.followsPure ?_
    rw [List.append_nil, ← List.append_assoc]
    exact .executed (.both check check') executed

theorem runPassesFollow (executions : ExecutionsFollow run interpreter action execution)
    (fuel pass : Nat) (stack : Stack H.Item) :
    (runPasses run interpreter action item? overridden? fuel pass).Follows stack
      (Repeated interpreter action execution item? overridden? pass) := by
  induction fuel generalizing pass stack with
  | zero => intro machine outcome upon ended; cases ended
  | succ fuel ih =>
    refine Run.followsBind (Run.followsMapError (runPassFollows executions stack)) ?_ ?_
    · rintro error events ⟨inner | inner, passed, same⟩
      · cases same
        exact .failed passed
      · cases same
    rintro executed events ⟨inner | inner, passed, same⟩ stack
    · cases same
    cases same
    cases executed with
    | false => exact Run.followsPure (by simpa using .held passed)
    | true =>
      cases repeats : action.guard? .asLongAs with
      | none => exact Run.followsPure (by simpa using .once repeats passed)
      | some expression =>
        exact Run.followsMono (ih (pass + 1) stack) fun _ _ more =>
          .again (by simp [repeats]) passed more

theorem runElementsFollow {fuel : Nat}
    (executions : ExecutionsFollow run interpreter action execution) (elements : List H.Item)
    (index : Nat) (stack : Stack H.Item) :
    (runElements run interpreter action fuel elements index).Follows stack
      (InTurn (Element interpreter action execution) (elements.zipIdx index)) := by
  induction elements generalizing index stack with
  | nil => exact Run.followsPure .none
  | cons element rest ih =>
    rw [List.zipIdx_cons]
    refine Run.followsBind (Run.followsMapError (underElementFollows
      fun frame => runPassesFollow executions fuel 1 _)) ?_ ?_
    · rintro error events ⟨inner, framed, same⟩
      exact .failed (same ▸ .element framed)
    · rintro value events ⟨inner, framed, same⟩ stack
      exact Run.followsMono (ih (index + 1) stack) fun _ _ more =>
        .next (same ▸ .element framed) more

theorem runBodyFollows (executions : ExecutionsFollow run interpreter action execution) (fuel : Nat)
    (stack : Stack H.Item) : (runBody run interpreter action fuel).Follows stack
      (Body interpreter action execution) := by
  refine underSpecFollows fun frame machine outcome upon ended => ?_
  have current : machine.stack.current = frame := by rw [upon]; rfl
  rw [runGrounded, Run.frameBind, current] at ended
  cases iterates : action.iterate? with
  | some expression =>
    simp only [iterates, Option.isSome_some] at ended
    exact .several (by simp [iterates]) (runElementsFollow executions _ 1 _ machine outcome rfl ended)
  | none =>
    simp only [iterates] at ended
    exact .single iterates (runPassesFollow executions fuel 1 _ machine outcome rfl ended)

end

theorem runActionFollows (fuel : Nat) (interpreter : Interpreter H) (action : Action)
    (stack : Stack H.Item) :
    (runAction fuel interpreter action).Follows stack (Running fuel interpreter action) := by
  -- On the fuel, of which the runs by handlers have one less.
  induction fuel generalizing interpreter action stack with
  | zero => intro machine outcome upon ended; cases ended
  | succ fuel ih =>
    intro machine outcome upon ended
    rw [runActionEq] at ended
    obtain ⟨body, ran, rfl⟩ := Option.map_eq_some_iff.mp ended
    have executions : ExecutionsFollow (runAction fuel) interpreter action fun spans =>
        Ordered { interpreter with spans } (Running fuel { interpreter with spans }) :=
      fun spans _ _ _ stack => Run.followsMono (performFollows _ (ih _) _ stack)
        fun _ _ performed => performed.ordered
    exact .entered (runBodyFollows executions (fuel + 1) stack machine body upon ran)

end Interpreter
end ActionTree

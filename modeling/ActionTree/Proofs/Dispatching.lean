import ActionTree.Proofs.Refinement
import ActionTree.Proofs.Sight
import ActionTree.Proofs.Stages
import ActionTree.Proofs.Upholding

/-! An action without `iterate` binds in two stages, and checks its conditions in between. Where the
checks change nothing, its handler is dispatched in the frame that one request would have given. -/
namespace ActionTree
open Binding (Stack Frame Spec Derivation)
variable {H : Host} {ε ε' α β : Type}

namespace Interpreter
variable (interpreter : Interpreter H) (action : Action)

/-- The request with all attributes of an action that bind, other than `iterate`. -/
def wholeSpec : Spec :=
  { Spec.anchored action (interpreter.sourceId action) with
    select? := action.ref?, context? := action.context?, model? := action.model?,
    bind? := action.bind? }

theorem wholeGrounding (plain : action.iterate? = none) :
    (interpreter.wholeSpec action).grounding action.scope false = interpreter.groundSpec action := by
  simp [Spec.grounding, wholeSpec, groundSpec, Spec.anchored, plain]

theorem wholeTargeting :
    (interpreter.wholeSpec action).targeting action.scope false = interpreter.targetSpec action := rfl

/-- A dispatch in the frame that one request gives, by the evaluations of the two requests before. -/
inductive Pooled (stack : Stack H.Item) :
    List (Event H) → Action → Option H.Item → Frame H.Item → Prop where
  | pooled {asked ground depth middle asked' whole depth' overridden?}
      (derivation : Derivation stack (interpreter.wholeSpec action) (.ok whole) (asked ++ asked')) :
      Pooled stack (asked ++ .pushed .interpreter (interpreter.groundSpec action) (.ok ground) depth ::
          (middle ++ (asked' ++
            [.pushed .interpreter (interpreter.targetSpec action) (.ok whole.unmarked) depth'])))
        action overridden? whole.unmarked

theorem bodyPooled {interpreter : Interpreter H} {action : Action} {stack : Stack H.Item}
    (plain : action.iterate? = none) {result : Except PlacedError Unit} {events : List (Event H)}
    (body : Level.Body interpreter action stack result events) :
    EachDispatch events (interpreter.Pooled action stack) := by
  cases body with
  | unbound derivation =>
    exact .append (.none (Level.derivationApart derivation)) (.none (by simp [Event.Apart]))
  | bound derivation content =>
    refine .append (.none (Level.derivationApart derivation))
      (.cons trivial (.append ?_ (.none (by simp [Event.Apart]))))
    cases content with
    | single _ passes =>
      refine (Level.passesDispatches passes).mono fun before action' overridden? frame aimed => ?_
      obtain ⟨rfl, _, middle, asked', depth, _, target, rfl⟩ := aimed
      rw [← wholeGrounding interpreter _ plain] at derivation
      rw [← wholeTargeting interpreter] at target
      obtain ⟨whole, together, rfl⟩ := derivation.whole target
      exact .pooled together
    | several iterates _ => simp [plain] at iterates

end Interpreter

def firstDispatch? (events : List (Event H)) : Option (Action × Option H.Item × Frame H.Item) :=
  events.findSome? Event.dispatch?

theorem noneDispatched {events : List (Event H)} (apart : ∀ event ∈ events, event.Apart) :
    firstDispatch? events = none := by
  refine List.findSome?_eq_none_iff.mpr fun event member => ?_
  cases event with
  | dispatched action overridden? frame => exact (apart _ member).elim
  | _ => rfl

theorem firstAfter {before : List (Event H)} (unseen : firstDispatch? before = none)
    (events : List (Event H)) : firstDispatch? (before ++ events) = firstDispatch? events := by
  rw [firstDispatch?, List.findSome?_append, ← firstDispatch?, unseen]
  rfl

theorem firstStays {events : List (Event H)} {seen : Action × Option H.Item × Frame H.Item}
    (first : firstDispatch? events = some seen) (rest : List (Event H)) :
    firstDispatch? (events ++ rest) = some seen := by
  rw [firstDispatch?, List.findSome?_append, ← firstDispatch?, first]
  rfl

theorem Watch.bindBegins (first : Watch H ε α) (next : α → Watch H ε β) (machine : Machine H) :
    ∃ rest, ((first >>= next) machine).events = (first machine).events ++ rest := by
  cases ended : (first machine).ended? with
  | none => exact ⟨[], by simp [bindPending ended]⟩
  | some outcome =>
    obtain ⟨result, after⟩ := outcome
    cases result with
    | error error => exact ⟨[], by simp [bindError ended]⟩
    | ok value => exact ⟨_, by rw [bindOk ended]⟩

namespace Interpreter
theorem underBegins (interpreter : Interpreter H) {enter : Act H ε Unit} (body : Watch H ε Unit)
    {machine : Machine H} (entered : (enter machine).result = .ok ()) : ∃ rest,
      (interpreter.under enter body machine).events =
        (enter machine).events ++ ((body (enter machine).machine).events ++ rest) := by
  rw [underWatchedOk entered, Watch.ensuringEq fun _ _ => rfl]
  cases (body (enter machine).machine).ended? with
  | none => exact ⟨[], by simp⟩
  | some ended => exact ⟨_, rfl⟩

theorem pushApart (evaluator : Evaluator H.State H.Item) (caller : Caller) (spec : Spec)
    (machine : Machine H) :
    ∀ event ∈ (Binding.push evaluator caller spec machine).events, event.Apart := by
  obtain ⟨_, _, _, derivation, _, same⟩ := Binding.pushSound evaluator caller spec machine
  rw [same]
  exact List.forall_mem_append.mpr
    ⟨Level.derivationApart derivation, List.forall_mem_singleton.mpr trivial⟩

/-- Whether all conditions let the action go on, `while` being checked only after `if`. -/
def clears (interpreter : Interpreter H) (action : Action) (item? : Option H.Item) :
    Act H ActionError Bool := do
  if ← interpreter.admits action item? .onlyIf then interpreter.admits action item? .asLongAs
  else return false

theorem clearsBoth {interpreter : Interpreter H} {action : Action} {item? : Option H.Item}
    {machine : Machine H}
    (passed : (interpreter.admits action item? .onlyIf machine).result = .ok true) :
    interpreter.clears action item? machine =
      let first := interpreter.admits action item? .onlyIf machine
      (interpreter.admits action item? .asLongAs first.machine).after first.events := by
  unfold clears
  rw [Act.bindOk passed]
  rfl

/-- Either nothing is dispatched and the end is not a good one, or the first dispatch is in the
frame that a request has given. -/
def Sees (target : Outcome H BindingError Unit) (action : Action) (Good : α → Prop)
    (progress : Progress H ε α) : Prop :=
  firstDispatch? progress.events = none ∧
      (∀ value after, progress.ended? = some (.ok value, after) → ¬ Good value) ∨
    target.result = .ok () ∧ ∃ overridden?,
      firstDispatch? progress.events = some (action, overridden?, target.machine.stack.current)

namespace Sees
variable {target : Outcome H BindingError Unit} {action : Action} {Good : α → Prop}

theorem after {progress : Progress H ε α} (sees : Sees target action Good progress)
    {before : List (Event H)} (apart : ∀ event ∈ before, event.Apart) :
    Sees target action Good { progress with events := before ++ progress.events } := by
  unfold Sees
  rwa [firstAfter (noneDispatched apart)]

theorem acted {act : Act H ε β} {next : β → Watch H ε α} {machine : Machine H}
    (apart : ∀ event ∈ (act machine).events, event.Apart)
    (sees : ∀ value, (act machine).result = .ok value →
      Sees target action Good (next value (act machine).machine)) :
    Sees target action Good ((Watch.ofAct act >>= next) machine) := by
  cases ended : (act machine).result with
  | error error =>
    have stopped : (Watch.ofAct act machine).ended? = some (.error error, (act machine).machine) :=
      congrArg (fun result => some (result, (act machine).machine)) ended
    rw [Watch.bindError stopped]
    exact .inl ⟨noneDispatched apart, nofun⟩
  | ok value =>
    have went : (Watch.ofAct act machine).ended? = some (.ok value, (act machine).machine) :=
      congrArg (fun result => some (result, (act machine).machine)) ended
    rw [Watch.bindOk went]
    exact (sees value ended).after apart

theorem recorded {event : Event H} {next : Unit → Watch H ε α} {machine : Machine H}
    (apart : event.Apart) (sees : Sees target action Good (next () machine)) :
    Sees target action Good ((Watch.ofAct (Act.record event) >>= next) machine) :=
  acted (List.forall_mem_singleton.mpr apart) fun _ _ => sees

theorem mapError {watch : Watch H ε α} {machine : Machine H}
    (sees : Sees target action Good (watch machine)) (change : ε → ε') :
    Sees target action Good (watch.mapError change machine) := by
  refine sees.imp_left fun ⟨unseen, never⟩ => ⟨unseen, fun value after ended => never value after ?_⟩
  obtain ⟨⟨result, after'⟩, same, changed⟩ := Option.map_eq_some_iff.mp ended
  cases result with
  | error error => cases changed
  | ok value' =>
    cases changed
    exact same

theorem bind {Good' : β → Prop} {first : Watch H ε α} {next : α → Watch H ε β}
    {machine : Machine H} (sees : Sees target action Good (first machine))
    (others : ∀ value machine, ¬ Good value → Sees target action Good' (next value machine)) :
    Sees target action Good' ((first >>= next) machine) := by
  rcases sees with ⟨unseen, never⟩ | ⟨bound, overridden?, seen⟩
  · cases ended : (first machine).ended? with
    | none =>
      rw [Watch.bindPending ended]
      exact .inl ⟨unseen, nofun⟩
    | some outcome =>
      obtain ⟨result, after⟩ := outcome
      cases result with
      | error error =>
        rw [Watch.bindError ended]
        exact .inl ⟨unseen, nofun⟩
      | ok value =>
        rw [Watch.bindOk ended]
        unfold Sees
        rw [firstAfter unseen]
        exact others value after (never value after ended)
  · obtain ⟨rest, events⟩ := Watch.bindBegins first next machine
    exact .inr ⟨bound, overridden?, by rw [events]; exact firstStays seen rest⟩

theorem ensuring {body : Watch H ε α} {last : Except ε α → Act H ε Unit} {machine : Machine H}
    (sees : Sees target action (fun _ => False) (body machine))
    (ends : ∀ result machine, (last result machine).result = .ok ())
    (apart : ∀ result machine, ∀ event ∈ (last result machine).events, event.Apart) :
    Sees target action (fun _ => False) (Steps.ensuring body last machine) := by
  rw [Watch.ensuringEq ends]
  unfold Sees at sees ⊢
  cases (body machine).ended? with
  | none => exact sees.imp_left fun unseen => ⟨unseen.1, nofun⟩
  | some outcome =>
    rcases sees with ⟨unseen, _⟩ | ⟨bound, overridden?, seen⟩
    · refine .inl ⟨?_, fun _ _ _ => id⟩
      rw [firstAfter unseen]
      exact noneDispatched (apart outcome.1 outcome.2)
    · exact .inr ⟨bound, overridden?, firstStays seen _⟩

theorem followed {Good' : β → Prop} {first : Watch H ε α} {machine : Machine H}
    (sees : Sees target action (fun _ => True) (first machine)) (next : α → Watch H ε β) :
    Sees target action Good' ((first >>= next) machine) :=
  sees.bind fun _ _ other => absurd trivial other

end Sees
section
variable {watch : Interpreter H → Action → Watch H ActionError Unit}

theorem underSees (interpreter : Interpreter H) (action : Action) (overridden? : Option H.Item)
    (handler : Handler H) (machine : Machine H) :
    let enter := Binding.push interpreter.evaluator .interpreter (interpreter.targetSpec action)
    Sees (enter machine) action (fun _ => True) (interpreter.under
      (Act.mapError .binding enter) (handle watch interpreter action handler overridden?)
        machine) := by
  intro enter
  have apart : ∀ event ∈ (enter machine).events, event.Apart := pushApart _ _ _ machine
  cases bound : (enter machine).result with
  | error error =>
    have refused : ((enter.mapError .binding : Act H ActionError Unit) machine).result =
      .error (.binding error) := congrArg (Except.mapError ActionError.binding) bound
    rw [underWatchedError refused]
    exact .inl ⟨noneDispatched apart, nofun⟩
  | ok value =>
    have entered : ((enter.mapError .binding : Act H ActionError Unit) machine).result = .ok () :=
      congrArg (Except.mapError ActionError.binding) bound
    obtain ⟨rest, events⟩ := underBegins interpreter
      (handle watch interpreter action handler overridden?) entered
    refine .inr ⟨bound, overridden?, ?_⟩
    rw [events]
    exact (firstAfter (noneDispatched apart) _).trans rfl

theorem executeSees (interpreter : Interpreter H) (action : Action) (overridden? : Option H.Item)
    (machine : Machine H) :
    Sees (Binding.push interpreter.evaluator .interpreter (interpreter.targetSpec action) machine)
      action (fun _ => True) (execute watch interpreter action overridden? machine) := by
  refine .recorded trivial (.recorded trivial ?_)
  cases interpreter.handlerFor action.name with
  | none => exact .inl ⟨rfl, nofun⟩
  | some handler => exact (underSees interpreter action overridden? handler machine).followed _

theorem runPassSees (interpreter : Interpreter H) (action : Action) (item? overridden? : Option H.Item)
    (pass? : Option Nat) (machine : Machine H) :
    Sees (Binding.push interpreter.evaluator .interpreter (interpreter.targetSpec action)
        (interpreter.clears action item? machine).machine) action (· = true)
      (runPass watch interpreter action item? overridden? pass? machine) := by
  have apart (guard : Guard) (machine : Machine H) :
      ∀ event ∈ (interpreter.admits action item? guard machine).events, event.Apart :=
    Level.checkApart (interpreter.admitsTold action item? guard machine)
  have held {target : Outcome H BindingError Unit} (machine : Machine H) :
      Sees target action (· = true) ((pure false : Watch H ActionError Bool) machine) :=
    .inl ⟨rfl, by rintro _ _ ⟨⟩; exact Bool.false_ne_true⟩
  refine .acted (apart .onlyIf machine) fun first checked => ?_
  cases first with
  | false => exact held _
  | true =>
    refine .acted (apart .asLongAs _) fun second checked' => ?_
    cases second with
    | false => exact held _
    | true =>
      let inside := Level.within interpreter action pass?
      have passed : (interpreter.admits action item? .onlyIf machine).result = .ok true := checked
      rw [clearsBoth passed]
      have sees : Sees _ action (fun _ => True) (execute watch inside action overridden? _) :=
        executeSees inside action overridden? (interpreter.admits action item? .asLongAs
          (interpreter.admits action item? .onlyIf machine).machine).machine
      exact sees.followed fun _ => pure true

theorem runPassesSee (interpreter : Interpreter H) (action : Action) (item? overridden? : Option H.Item)
    (fuel : Nat) (machine : Machine H) :
    Sees (Binding.push interpreter.evaluator .interpreter (interpreter.targetSpec action)
        (interpreter.clears action item? machine).machine) action (fun _ => False)
      (runPasses watch interpreter action item? overridden? fuel 1 machine) := by
  cases fuel with
  | zero => exact .inl ⟨rfl, nofun⟩
  | succ fuel =>
    refine Sees.bind ((runPassSees interpreter action item? overridden? _ machine).mapError _) ?_
    intro executed after held
    have halted : executed = false := by simpa using held
    subst halted
    exact .inl ⟨rfl, fun _ _ _ => id⟩

/-- The steps of an action up to its handler, the request that grounds it going well. -/
def binds (interpreter : Interpreter H) (action : Action) : Act H BindingError Unit := do
  Binding.push interpreter.evaluator .interpreter (interpreter.groundSpec action)
  let ground ← Act.frame
  let _ ← (interpreter.clears action ground.contextItem?).attempt
  Binding.push interpreter.evaluator .interpreter (interpreter.targetSpec action)

section
variable {interpreter : Interpreter H} {action : Action} {machine : Machine H}

theorem bindsOk (grounded : (Binding.push interpreter.evaluator .interpreter
      (interpreter.groundSpec action) machine).result = .ok ()) :
    let ground := (Binding.push interpreter.evaluator .interpreter (interpreter.groundSpec action)
      machine).machine
    let checked := interpreter.clears action ground.stack.current.contextItem? ground
    let target := Binding.push interpreter.evaluator .interpreter (interpreter.targetSpec action)
      checked.machine
    (interpreter.binds action machine).result = target.result ∧
      (interpreter.binds action machine).machine = target.machine := by
  have checked (item? : Option H.Item) (ground : Machine H) :
      ((interpreter.clears action item?).attempt : Act H BindingError _) ground =
        ⟨.ok (interpreter.clears action item? ground).result,
          (interpreter.clears action item? ground).machine,
          (interpreter.clears action item? ground).events⟩ := rfl
  unfold binds
  rw [Act.bindOk grounded, Act.frameBindEq, Act.bindBy (checked _ _)]
  exact ⟨rfl, rfl⟩

end

theorem runBodySees (interpreter : Interpreter H) {action : Action} (plain : action.iterate? = none)
    (fuel : Nat) (machine : Machine H) :
    Sees (interpreter.binds action machine) action (fun _ => False)
      (runBody watch interpreter action fuel machine) := by
  let enter : Act H PlacedError Unit :=
    (Binding.push interpreter.evaluator .interpreter (interpreter.groundSpec action)).mapError
      fun error => inPass none (.binding error)
  have apart : ∀ event ∈ (enter machine).events, event.Apart := pushApart _ _ _ machine
  change Sees _ _ _ (interpreter.under enter (runGrounded watch interpreter action fuel) machine)
  cases bound : (Binding.push interpreter.evaluator .interpreter (interpreter.groundSpec action)
      machine).result with
  | error error =>
    have refused : (enter machine).result = .error (inPass none (.binding error)) :=
      congrArg (Except.mapError fun error => inPass none (.binding error)) bound
    rw [underWatchedError refused]
    exact .inl ⟨noneDispatched apart, nofun⟩
  | ok value =>
    have entered : (enter machine).result = .ok () :=
      congrArg (Except.mapError fun error => inPass none (.binding error)) bound
    have pops (result : Except PlacedError Unit) (machine : Machine H) : ∀ event ∈
        ((Binding.pop .interpreter interpreter.spans : Act H PlacedError Unit) machine).events,
        event.Apart := by
      rw [Binding.popEq]
      unfold Binding.poppings
      split <;> simp [Event.Apart]
    obtain ⟨result, after⟩ := bindsOk bound
    rw [underWatchedOk entered]
    unfold Sees
    rw [result, after]
    refine Sees.after (.ensuring (.acted (List.forall_mem_nil _) ?_) (fun _ _ => rfl) pops) apart
    rintro frame ⟨⟩
    rw [plain]
    exact runPassesSee interpreter action _ _ fuel _

end

theorem runSees (interpreter : Interpreter H) {action : Action} (plain : action.iterate? = none)
    (fuel : Nat) (machine : Machine H) :
    Sees (interpreter.binds action machine) action (fun _ => False)
      (runWatched fuel interpreter action machine) := by
  cases fuel with
  | zero => exact .inl ⟨rfl, nofun⟩
  | succ fuel =>
    refine .recorded trivial (.ensuring (.mapError ?_ _) (fun _ _ => rfl) fun _ _ => ?_)
    · exact runBodySees interpreter plain (fuel + 1) machine
    · exact List.forall_mem_singleton.mpr trivial

/-- Checking the conditions of an action in its own frame leaves the state as it was. -/
def ChecksStill (interpreter : Interpreter H) (action : Action) (machine : Machine H) : Prop :=
  let ground := (Binding.push interpreter.evaluator .interpreter (interpreter.groundSpec action)
    machine).machine
  (interpreter.clears action ground.stack.current.contextItem? ground).machine.state = ground.state

theorem plainClears (interpreter : Interpreter H) (action : Action) (item? : Option H.Item) :
    (interpreter.clears action item?).Plain := by
  refine .bind (interpreter.plainAdmits action item? .onlyIf) fun passed => ?_
  split
  · exact interpreter.plainAdmits action item? .asLongAs
  · exact .pure _

theorem bindsWhole {interpreter : Interpreter H} {action : Action} {machine : Machine H}
    (plain : action.iterate? = none) (still : interpreter.ChecksStill action machine)
    (bound : (interpreter.binds action machine).result = .ok ()) :
    let whole := Binding.push interpreter.evaluator .interpreter (interpreter.wholeSpec action) machine
    whole.result = .ok () ∧ (interpreter.binds action machine).machine.stack.current =
      whole.machine.stack.current.unmarked := by
  intro whole
  obtain ⟨⟨⟩, grounded, _⟩ := Act.bindGave bound
  let ground := (Binding.push interpreter.evaluator .interpreter (interpreter.groundSpec action)
    machine).machine
  have quiet := ((interpreter.plainClears action ground.stack.current.contextItem?).quiet ground).1
  have same : (interpreter.clears action ground.stack.current.contextItem? ground).machine = ground :=
    congr (congrArg Machine.mk still) quiet
  obtain ⟨result, after⟩ := bindsOk grounded
  rw [same] at result after
  have staged := Binding.pushStaged interpreter.evaluator .interpreter (interpreter.wholeSpec action)
    action.scope action.scope false false machine
  rw [wholeGrounding interpreter action plain, wholeTargeting, Act.bindOk grounded] at staged
  have went : whole.result = .ok () := staged.result.symm.trans (result.symm.trans bound)
  exact ⟨went, by rw [after]; exact staged.frame went⟩

end Interpreter

theorem stagesAgree :
    (∀ (evaluator : Evaluator H.State H.Item) (caller : Caller) (spec : Spec) (scope scope' : Scope)
        (inner inner' : Bool) (machine : Machine H),
      Binding.Staged (Binding.push evaluator caller spec machine)
        ((do
          Binding.push evaluator caller (spec.grounding scope inner)
          Binding.push evaluator caller (spec.targeting scope' inner')) machine)) ∧
    ∀ (interpreter : Interpreter H) (action : Action) (fuel : Nat) (machine : Machine H),
      action.iterate? = none →
      (∀ action' overridden? frame, interpreter.ChecksStill action machine →
        firstDispatch? (interpreter.runWatched fuel action machine).events =
          some (action', overridden?, frame) →
        let whole :=
          Binding.push interpreter.evaluator .interpreter (interpreter.wholeSpec action) machine
        action' = action ∧ whole.result = .ok () ∧ frame = whole.machine.stack.current.unmarked) ∧
      ∀ outcome, interpreter.HandlersRestore ∨ interpreter.HandlersStay →
        interpreter.runAction fuel action machine = some outcome →
        ∃ inner, outcome.events = .entered action :: (inner ++ [.left action outcome.result]) ∧
          EachDispatch (own inner) (interpreter.Pooled action machine.stack) := by
  refine ⟨Binding.pushStaged, fun interpreter action fuel machine plain => ⟨?_, ?_⟩⟩
  · intro action' overridden? frame still first whole
    rcases interpreter.runSees plain fuel machine with ⟨unseen, _⟩ | ⟨bound, _, seen⟩
    · simp [unseen] at first
    · obtain ⟨went, same⟩ := Interpreter.bindsWhole plain still bound
      rw [seen, same] at first
      cases first
      exact ⟨rfl, went, rfl⟩
  · intro outcome handlers ended
    have restore : interpreter.HandlersRestore := handlers.elim id Interpreter.restoreOfStay
    obtain ⟨inner, result, events, _, body, _⟩ :=
      Interpreter.runActionTold (P := fun _ _ _ => True) restore (fun _ _ _ _ _ _ => trivial) ended
    exact ⟨inner, events, Interpreter.bodyPooled plain body⟩

namespace Counting

/-- Evaluates guards as the other does, but does not count them. -/
def guardless : Evaluator Nat Nat
  | .items, request, count =>
      let (answer, counted) := evaluator .items request count
      (answer, if request.expression = "boolean(more)" then count else counted)
  | mode, request, count => evaluator mode request count

def settled : Interpreter host := { interpreter with evaluator := guardless }

def aimed : Action := action "watch" [("ref", "all"), ("context", "more"), ("if", "more")] []

end Counting

theorem stagesAgreeForRef : ∃ overridden? frame,
    firstDispatch? (Counting.settled.runWatched 3 Counting.aimed Counting.machine).events =
        some (Counting.aimed, overridden?, frame) ∧
      (frame.focus, frame.contextItem?) = (⟨[(1 : Nat), 2], 1⟩, some (0 : Nat)) ∧
      Counting.aimed.guard? .onlyIf = some "more" ∧
      Counting.settled.ChecksStill Counting.aimed Counting.machine ∧
      let whole := Binding.push Counting.settled.evaluator .interpreter
        (Counting.settled.wholeSpec Counting.aimed) Counting.machine
      whole.result = .ok () ∧ frame = whole.machine.stack.current.unmarked := by
  have plain : Counting.aimed.iterate? = none := by decide
  have checked : Counting.aimed.guard? .onlyIf = some "more" := by decide +kernel
  have still : Counting.settled.ChecksStill Counting.aimed Counting.machine := by
    unfold Interpreter.ChecksStill
    decide +kernel
  have dispatched : (firstDispatch? (Counting.settled.runWatched 3 Counting.aimed
      Counting.machine).events).map (fun seen => (seen.2.2.focus, seen.2.2.contextItem?)) =
        some (⟨[(1 : Nat), 2], 1⟩, some (0 : Nat)) := by decide +kernel
  obtain ⟨⟨action, overridden?, frame⟩, first, shown⟩ := Option.map_eq_some_iff.mp dispatched
  have agreed := stagesAgree.2 Counting.settled Counting.aimed 3 Counting.machine plain
  obtain ⟨rfl, whole⟩ := agreed.1 action overridden? frame still first
  exact ⟨overridden?, frame, first, shown, checked, still, whole⟩

end ActionTree

import ActionTree.Proofs.Position

/-! Passes of one element. All of them work on the same stack and on the same item, and each full
pass binds `ref` and `bind` anew; the last one may end at a condition. -/
namespace ActionTree
open Binding (Stack Frame Spec Derivation)
variable {H : Host}

namespace Binding

/-- What is asked to bind `ref` or `bind`, when there is an item to ask on. -/
def Stack.targetRequest? {Item : Type} (stack : Stack Item) (spec : Spec) : Option (Request Item) :=
  match spec.bind?, spec.select? with
  | some id, _ => match stack.bindRoot id with
      | .error _ => none
      | .ok (bind, root) =>
          if root.isEmpty then none
          else some (spec.request stack stack.current.modelId? ⟨root, 1⟩ bind.ref)
  | none, some expression =>
      if stack.current.focus.InRange then
        some (spec.request stack stack.current.modelId? stack.current.focus expression)
      else none
  | none, none => none

def askedOnce (request? : Option (Request H.Item)) (answer : Except EvalError (List H.Item)) :
    List (Event H) :=
  request?.toList.map fun request => .evaluated .binding .items request answer

section
variable {stack : Stack H.Item} {spec : Spec}

theorem Selection.askedOnce {modelId? : Option String} {focus : Focus H.Item} {expression : String}
    {result : Except BindingError (List H.Item)} {events : List (Event H)}
    (selection : Selection stack spec modelId? focus expression result events) :
    ∃ answer, result = answer.mapError .evaluation ∧ events = Binding.askedOnce
      (if focus.InRange then some (spec.request stack modelId? focus expression) else none) answer := by
  cases selection with
  | skipped outside => exact ⟨.ok [], rfl, by simp [Binding.askedOnce, outside]⟩
  | evaluated inside answer => exact ⟨answer, rfl, by simp [Binding.askedOnce, inside]⟩

theorem answeredOfStart {answer : Except EvalError (List H.Item)} {focus : Focus H.Item}
    (mapped : (answer.mapError BindingError.evaluation).map Focus.start = .ok focus) :
    ∃ items, answer = .ok items := by
  cases answer with
  | error error => cases mapped
  | ok items => exact ⟨items, rfl⟩

theorem Settling.askedOnce {result : Except BindingError (Focus H.Item)} {events : List (Event H)}
    (settled : Settling stack spec stack.current.modelId? stack.current.focus result events) :
    ∃ answer, events = Binding.askedOnce (stack.targetRequest? spec) answer ∧
      ∀ focus, result = .ok focus → ∃ items, answer = .ok items := by
  unfold Stack.targetRequest?
  cases settled with
  | undeclared present unknown =>
    exact ⟨.ok [], by simp [present, unknown, Binding.askedOnce], fun _ _ => ⟨[], rfl⟩⟩
  | @bound id bind root result events present declared selection =>
    obtain ⟨answer, rfl, rfl⟩ := selection.askedOnce
    refine ⟨answer, ?_, fun focus mapped => answeredOfStart mapped⟩
    cases root <;> simp [present, declared, Focus.InRange]
  | selected unbound present selection =>
    obtain ⟨answer, rfl, rfl⟩ := selection.askedOnce
    exact ⟨answer, by simp [unbound, present], fun focus mapped => answeredOfStart mapped⟩
  | kept unbound absent =>
    exact ⟨.ok [], by simp [unbound, absent, Binding.askedOnce], fun _ _ => ⟨[], rfl⟩⟩

theorem Narrowing.keeps {modelId? : Option String} {base : Focus H.Item}
    {result : Except BindingError (Focus H.Item)} {events : List (Event H)}
    (absent : spec.context? = none) (narrowed : Narrowing stack spec modelId? base result events) :
    result = .ok base ∧ events = [] := by
  cases narrowed with
  | kept _ => exact ⟨rfl, rfl⟩
  | selected present selection => exact absurd (absent.symm.trans present) nofun

theorem Derivation.askedOnce {result : Except BindingError (Frame H.Item)} {events : List (Event H)}
    (plain : spec.model? = none ∧ spec.context? = none)
    (derivation : Derivation stack spec result events) :
    ∃ answer, events = Binding.askedOnce (stack.targetRequest? spec) answer ∧
      ∀ frame, result = .ok frame → ∃ items, answer = .ok items := by
  -- Without a model and a context, `ref` and `bind` are settled on the current focus.
  have ground : stack.groundOf spec = .ok (stack.current.focus, stack.current.modelId?) := by
    simp [Stack.groundOf, plain.1]
  cases derivation with
  | ungrounded unknown => exact absurd (ground.symm.trans unknown) nofun
  | unnarrowed grounded narrowed => exact absurd (narrowed.keeps plain.2).1 nofun
  | unsettled grounded narrowed settled =>
    cases ground.symm.trans grounded
    obtain ⟨⟨⟩, rfl⟩ := narrowed.keeps plain.2
    obtain ⟨answer, rfl, _⟩ := settled.askedOnce
    exact ⟨answer, rfl, nofun⟩
  | @derived _ _ _ focus _ _ grounded narrowed settled =>
    cases ground.symm.trans grounded
    obtain ⟨⟨⟩, rfl⟩ := narrowed.keeps plain.2
    obtain ⟨answer, rfl, answered⟩ := settled.askedOnce
    exact ⟨answer, rfl, fun _ _ => answered focus rfl⟩

end

end Binding
namespace Level

section
variable (interpreter : Interpreter H) (action : Action) (stack : Stack H.Item)
  (item? overridden? : Option H.Item)

/-- The condition of the action that is checked before any other. -/
def ChecksFirst (guard : Guard) : Prop :=
  (action.guard? guard).isSome ∧ (guard = .asLongAs → action.guard? .onlyIf = none)

/-- What there may be within the passes of one element. -/
inductive Happens : Event H → Prop where
  | guard {guard expression item answer} (present : action.guard? guard = some expression)
      (here : item? = some item) :
      Happens (.evaluated .guard .items (guardRequest interpreter action stack expression item) answer)
  | target {request answer}
      (needed : stack.targetRequest? (interpreter.targetSpec action) = some request) :
      Happens (.evaluated .binding .items request answer)
  | bound {result found depth}
      (derivation : Derivation stack (interpreter.targetSpec action) result found) :
      Happens (.pushed .interpreter (interpreter.targetSpec action) result depth)
  | lookedUp {found} : Happens (.lookedUp action.name found)
  | dispatched {frame} : Happens (.dispatched action overridden? frame)
  | returned {result} : Happens (.returned action result)
  | popped {depth} : Happens (.popped .interpreter depth)
  | logged {entry spans} : Happens (.logged entry spans)

/-- A pass that executes the handler, from its conditions to its end. -/
inductive Round (pass : Nat) : List (Event H) → Prop where
  | round {first second handler items found frame}
      (onlyIf : Check interpreter action stack item? .onlyIf (.ok true) first)
      (asLongAs : Check interpreter action stack item? .asLongAs (.ok true) second)
      (known : interpreter.handlerFor action.name = some handler)
      (asked : found =
        Binding.askedOnce (stack.targetRequest? (interpreter.targetSpec action)) (.ok items))
      (derived : Derivation stack (interpreter.targetSpec action) (.ok frame) found) :
      Round pass (first ++ second ++
        opening (within interpreter action (passOf? action pass)) action true ++ found ++
        [.pushed .interpreter (interpreter.targetSpec action) (.ok frame) (stack.push frame).depth,
          .dispatched action overridden? frame, .returned action (.ok ()),
          .popped .interpreter stack.depth,
          (within interpreter action (passOf? action pass)).logged .done])

/-- A pass that ends at a condition. -/
inductive Refusal : List (Event H) → Prop where
  | first {events} (refused : Check interpreter action stack item? .onlyIf (.ok false) events) :
      Refusal events
  | second {events events'} (held : Check interpreter action stack item? .onlyIf (.ok true) events)
      (refused : Check interpreter action stack item? .asLongAs (.ok false) events') :
      Refusal (events ++ events')

/-- Full passes one after the other, and then one that ends at a condition when `while` asks for
one or there was none. -/
structure Rounds (pass : Nat) (rounds : List (List (Event H))) (last events : List (Event H)) :
    Prop where
  whole : events = rounds.flatten ++ last
  full : ∀ index round, rounds[index]? = some round →
    Round interpreter action stack item? overridden? (pass + index) round
  ended : if (action.guard? .asLongAs).isSome ∨ rounds = [] then
    Refusal interpreter action stack item? last else last = []
  once : action.guard? .asLongAs = none → rounds.length ≤ 1
  counted : events.countP Event.Completes = rounds.length

end

section
variable {interpreter : Interpreter H} {action : Action} {stack : Stack H.Item}
  {item? overridden? : Option H.Item}

theorem refusalOfPass {pass? : Option Nat} {events : List (Event H)}
    (passed : Pass interpreter action stack item? overridden? pass? (.ok false) events) :
    Refusal interpreter action stack item? events := by
  cases passed with
  | held clearance =>
    cases clearance with
    | first unmet check => exact .first check
    | both check next => exact .second check next

theorem roundOfPass {pass : Nat} {events : List (Event H)} (passed : Pass interpreter action stack
      item? overridden? (passOf? action pass) (.ok true) events) :
    Round interpreter action stack item? overridden? pass events := by
  cases passed with
  | executed clearance execution =>
    cases clearance with
    | first unmet check => exact absurd rfl unmet
    | both onlyIf asLongAs =>
      cases execution with
      | done known bound =>
        cases bound with
        | @bound frame _ _ _ derivation body =>
          cases body
          obtain ⟨answer, asked, answered⟩ := derivation.askedOnce ⟨rfl, rfl⟩
          obtain ⟨items, rfl⟩ := answered frame rfl
          have round : Round interpreter action stack item? overridden? pass _ :=
            .round onlyIf asLongAs known asked derivation
          simp only [List.append_assoc, List.cons_append, List.nil_append] at round ⊢
          exact round

theorem passesRounds {pass : Nat} {events : List (Event H)}
    (passes : Passes interpreter action stack item? overridden? pass (.ok ()) events) :
    ∃ rounds last, Rounds interpreter action stack item? overridden? pass rounds last events := by
  generalize ended : Except.ok () = result at passes
  induction passes with
  | failed last => cases ended
  | @held pass events last =>
    have refused : Refusal interpreter action stack item? events := refusalOfPass last
    exact ⟨[], events, rfl, by simp, by simpa using refused, fun _ => Nat.zero_le 1,
      (passInOrder last).counted⟩
  | @once pass events once last =>
    refine ⟨[events], [], by simp, ?_, by simp [once], fun _ => Nat.le_refl 1,
      (passInOrder last).counted⟩
    intro index round found
    cases index with
    | zero =>
      cases found
      exact roundOfPass last
    | succ index => cases found
  | @again pass _ events _ repeats first rest ih =>
    obtain ⟨rounds, last, whole, full, refused, _, counted⟩ := ih ended
    refine ⟨events :: rounds, last, ?_, ?_, by simpa [repeats] using refused, ?_, ?_⟩
    · rw [whole, List.flatten_cons, List.append_assoc]
    · intro index round found
      cases index with
      | zero =>
        cases found
        exact roundOfPass first
      | succ index =>
        have later := full index round found
        rwa [Nat.add_assoc, Nat.add_comm 1] at later
    · intro absent
      simp [absent] at repeats
    · have one : events.countP Event.Completes = 1 := (passInOrder first).counted
      rw [List.countP_append, counted, one, List.length_cons, Nat.add_comm]

theorem checkMissing {guard : Guard} {result : Except ActionError Bool} {events : List (Event H)}
    (present : (action.guard? guard).isSome)
    (check : Check interpreter action stack none guard result events) :
    result = .ok false ∧ events = [interpreter.logged (.skipped action.name guard .missingContext)] := by
  cases check with
  | absent absent => simp [absent] at present
  | missing _ _ => exact ⟨rfl, rfl⟩
  | failed _ here => cases here
  | undecided _ here => cases here
  | holds _ here => cases here
  | fails _ here => cases here

theorem checkAbsent {guard : Guard} {result : Except ActionError Bool} {events : List (Event H)}
    (absent : action.guard? guard = none)
    (check : Check interpreter action stack item? guard result events) :
    result = .ok true ∧ events = [] := by
  cases check with
  | absent _ => exact ⟨rfl, rfl⟩
  | missing present _ => exact absurd (absent.symm.trans present) nofun
  | failed present _ => exact absurd (absent.symm.trans present) nofun
  | undecided present _ _ => exact absurd (absent.symm.trans present) nofun
  | holds present _ _ => exact absurd (absent.symm.trans present) nofun
  | fails present _ _ => exact absurd (absent.symm.trans present) nofun

namespace Rounds
variable {pass : Nat} {rounds : List (List (Event H))} {last events : List (Event H)}

theorem first (whole : Rounds interpreter action stack item? overridden? pass rounds last events)
    (some : rounds ≠ []) : ∃ first second, Check interpreter action stack item? .onlyIf (.ok true) first ∧
      Check interpreter action stack item? .asLongAs (.ok true) second := by
  cases rounds with
  | nil => exact absurd rfl some
  | cons round rounds =>
    obtain ⟨onlyIf, asLongAs⟩ := whole.full 0 round rfl
    exact ⟨_, _, onlyIf, asLongAs⟩

theorem unrepeated (whole : Rounds interpreter action stack item? overridden? pass rounds last events)
    (once : action.guard? .asLongAs = none) : rounds.length ≤ 1 ∧ (rounds ≠ [] → last = []) ∧
      (rounds = [] → Check interpreter action stack item? .onlyIf (.ok false) last) := by
  have ended := whole.ended
  refine ⟨whole.once once, ?_, ?_⟩
  · intro some
    simpa [once, some] using ended
  · rintro rfl
    have refused : Refusal interpreter action stack item? last := by simpa using ended
    cases refused with
    | first refused => exact refused
    | second held refused => exact absurd (checkAbsent once refused).1 nofun

theorem missing (whole : Rounds interpreter action stack none overridden? pass rounds last events)
    {guard : Guard} (checked : ChecksFirst action guard) :
    rounds = [] ∧ last = [interpreter.logged (.skipped action.name guard .missingContext)] := by
  obtain ⟨present, leading⟩ := checked
  have stopped : rounds = [] := by
    refine Decidable.byContradiction fun some => ?_
    obtain ⟨_, _, onlyIf, asLongAs⟩ := whole.first some
    cases guard with
    | onlyIf => exact absurd (checkMissing present onlyIf).1 nofun
    | asLongAs => exact absurd (checkMissing present asLongAs).1 nofun
  have refused : Refusal interpreter action stack none last := by
    have ended := whole.ended
    simpa [stopped] using ended
  refine ⟨stopped, ?_⟩
  cases guard with
  | onlyIf =>
    cases refused with
    | first refused => exact (checkMissing present refused).2
    | second held _ => exact absurd (checkMissing present held).1 nofun
  | asLongAs =>
    have absent := leading rfl
    cases refused with
    | first refused => exact absurd (checkAbsent absent refused).1 nofun
    | second held refused =>
      rw [(checkAbsent absent held).2, (checkMissing present refused).2]
      rfl

end Rounds

theorem checkHappens {guard : Guard} {result : Except ActionError Bool} {events : List (Event H)}
    (check : Check interpreter action stack item? guard result events) :
    ∀ event ∈ events, Happens interpreter action stack item? overridden? event := by
  have asked {expression item answer} (present : action.guard? guard = some expression)
      (here : item? = some item) : ∀ event ∈ [Event.evaluated .guard .items
        (guardRequest interpreter action stack expression item) answer],
      Happens interpreter action stack item? overridden? event :=
    List.forall_mem_singleton.mpr (.guard present here)
  cases check with
  | absent absent => exact List.forall_mem_nil _
  | missing present missing => exact List.forall_mem_singleton.mpr .logged
  | failed present here => exact asked present here
  | undecided present here undecided => exact asked present here
  | holds present here truth => exact asked present here
  | fails present here truth =>
    exact List.forall_mem_cons.mpr ⟨.guard present here, List.forall_mem_singleton.mpr .logged⟩

theorem clearanceHappens {result : Except ActionError Bool} {events : List (Event H)}
    (clearance : Clearance interpreter action stack item? result events) :
    ∀ event ∈ events, Happens interpreter action stack item? overridden? event := by
  cases clearance with
  | first unmet check => exact checkHappens check
  | both check next => exact List.forall_mem_append.mpr ⟨checkHappens check, checkHappens next⟩

theorem targetHappens {result : Except ActionError Unit} {events : List (Event H)}
    (bound : Bound stack (interpreter.targetSpec action) .binding (Handled action overridden?)
      result events) :
    ∀ event ∈ events, Happens interpreter action stack item? overridden? event := by
  have asked {result events}
      (derivation : Derivation stack (interpreter.targetSpec action) result events) :
      ∀ event ∈ events, Happens interpreter action stack item? overridden? event := by
    obtain ⟨answer, rfl, _⟩ := derivation.askedOnce ⟨rfl, rfl⟩
    intro event member
    obtain ⟨request, needed, rfl⟩ := List.mem_map.mp member
    exact .target (Option.mem_toList.mp needed)
  cases bound with
  | unbound derivation =>
    exact List.forall_mem_append.mpr ⟨asked derivation, List.forall_mem_singleton.mpr (.bound derivation)⟩
  | bound derivation body =>
    cases body
    refine List.forall_mem_append.mpr ⟨asked derivation, ?_⟩
    simp only [List.cons_append, List.nil_append, List.forall_mem_cons]
    exact ⟨.bound derivation, .dispatched, .returned, .popped, List.forall_mem_nil _⟩

theorem executionHappens {pass? : Option Nat} {result : Except ActionError Unit}
    {events : List (Event H)} (execution : Execution (within interpreter action pass?) action stack
      overridden? result events) :
    ∀ event ∈ events, Happens interpreter action stack item? overridden? event := by
  have opened (found : Bool) : ∀ event ∈ opening (within interpreter action pass?) action found,
      Happens interpreter action stack item? overridden? event :=
    List.forall_mem_cons.mpr ⟨.logged, List.forall_mem_singleton.mpr .lookedUp⟩
  cases execution with
  | unknown unknown => exact opened false
  | failed known bound => exact List.forall_mem_append.mpr ⟨opened true, targetHappens bound⟩
  | done known bound =>
    exact List.forall_mem_append.mpr ⟨opened true,
      List.forall_mem_append.mpr ⟨targetHappens bound, List.forall_mem_singleton.mpr .logged⟩⟩

theorem passHappens {pass? : Option Nat} {result : Except ActionError Bool} {events : List (Event H)}
    (passed : Pass interpreter action stack item? overridden? pass? result events) :
    ∀ event ∈ events, Happens interpreter action stack item? overridden? event := by
  cases passed with
  | unclear clearance => exact clearanceHappens clearance
  | held clearance => exact clearanceHappens clearance
  | failed clearance execution =>
    exact List.forall_mem_append.mpr ⟨clearanceHappens clearance, executionHappens execution⟩
  | executed clearance execution =>
    exact List.forall_mem_append.mpr ⟨clearanceHappens clearance, executionHappens execution⟩

theorem passesHappen {pass : Nat} {result : Except Interpreter.PlacedError Unit}
    {events : List (Event H)}
    (passes : Passes interpreter action stack item? overridden? pass result events) :
    ∀ event ∈ events, Happens interpreter action stack item? overridden? event := by
  induction passes with
  | failed last => exact passHappens last
  | held last => exact passHappens last
  | once once last => exact passHappens last
  | again repeats first rest ih => exact List.forall_mem_append.mpr ⟨passHappens first, ih⟩

end
end Level
namespace Interpreter

theorem passesGuarded {interpreter : Interpreter H}
    (handlers : interpreter.HandlersRestore ∨ interpreter.HandlersStay) {fuel passes : Nat}
    {action : Action} {item? overridden? : Option H.Item} {machine : Machine H}
    {outcome : Outcome H PlacedError Unit}
    (ended : runPasses (runAction fuel) interpreter action item? overridden? passes 1 machine =
      some outcome) (well : outcome.result = .ok ()) :
    ∃ rounds last, Level.Rounds interpreter action machine.stack item? overridden? 1 rounds last
        (own outcome.events) ∧
      (action.guard? .asLongAs = none → rounds.length ≤ 1 ∧ (rounds ≠ [] → last = []) ∧
        (rounds = [] → Level.Check interpreter action machine.stack item? .onlyIf (.ok false) last)) ∧
      (∀ mode request answer, .evaluated .guard mode request answer ∈ own outcome.events →
        ∃ item, item? = some item ∧ request.focus = ⟨[item], 1⟩) ∧
      (item? = none → ∀ guard, Level.ChecksFirst action guard → rounds = [] ∧
        last = [interpreter.logged (.skipped action.name guard .missingContext)]) := by
  have settled := performSettled (handlers.elim id restoreOfStay) fuel action
  obtain ⟨_, shown, shows', told⟩ :=
    runPassesTells settled machine.stack passes 1 machine outcome rfl ended
  rw [well] at told
  rw [shows'.own]
  obtain ⟨rounds, last, whole⟩ := Level.passesRounds told
  refine ⟨rounds, last, whole, whole.unrepeated, ?_, ?_⟩
  · intro mode request answer member
    cases Level.passesHappen told _ member with
    | guard present here => exact ⟨_, here, rfl⟩
  · rintro rfl guard checked
    exact whole.missing checked

end Interpreter

namespace Counting

def repeated : Action := action "watch" [("while", "more"), ("ref", "all")] []

def later : Machine host := ⟨(8 : Nat), machine.stack⟩

end Counting

theorem Interpreter.passesGuardedTwice : ∃ outcome,
    runPasses (runAction 2) Counting.interpreter Counting.repeated (some (7 : Nat)) none 3 1
        Counting.later = some outcome ∧
      outcome.result = .ok () ∧ ∃ rounds last, rounds.length = 2 ∧
        Level.Rounds Counting.interpreter Counting.repeated Counting.later.stack (some (7 : Nat)) none
          1 rounds last (own outcome.events) ∧
        ∀ mode request answer, .evaluated .guard mode request answer ∈ own outcome.events →
          ∃ item, some (7 : Nat) = some item ∧ request.focus = ⟨[item], 1⟩ := by
  have repeats : (runPasses (runAction 2) Counting.interpreter Counting.repeated (some (7 : Nat)) none
      3 1 Counting.later).map (fun outcome =>
        (outcome.result.toOption, (own outcome.events).countP Event.Completes)) =
      some (some (), 2) := by decide +kernel
  obtain ⟨outcome, ended, counts⟩ := Option.map_eq_some_iff.mp repeats
  have counted := congrArg Prod.snd counts
  cases well : outcome.result with
  | error error => simp [well, Except.toOption] at counts
  | ok value =>
    obtain ⟨rounds, last, whole, _, guards, _⟩ :=
      passesGuarded (.inr Counting.handlersStay) ended well
    exact ⟨outcome, ended, well, rounds, last, whole.counted.symm.trans counted, whole, guards⟩

end ActionTree

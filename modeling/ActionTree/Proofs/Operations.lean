import ActionTree.Proofs.Restoration

/-! Operations on a stack, one after the other in any order and whatever becomes of each. The
frames are those that were put on and not taken off since, over the root. -/
namespace ActionTree
open Binding (Stack Frame Spec Derivation)
variable {H : Host}

def Event.added? : Event H → Option (Frame H.Item)
  | .pushed _ _ (.ok frame) _ => some frame
  | .iterated _ _ (.ok frame) _ => some frame
  | _ => none

def Event.adds (event : Event H) : Bool := event.added?.isSome

def Event.takesOff : Event H → Bool
  | .popped _ _ => true
  | _ => false

/-- Leaves the frames from before alone: at no time has more been taken off than put on. -/
def Spares (events : List (Event H)) : Prop :=
  ∀ begun, begun <+: events → begun.countP Event.takesOff ≤ begun.countP Event.adds

/-- How many frames are taken off of those from before the events, if there are that many. -/
def excess : List (Event H) → Nat
  | [] => 0
  | event :: rest =>
      if event.takesOff then excess rest + 1
      else if event.adds then excess rest - 1
      else excess rest

theorem addsNothing {event : Event H} (off : event.takesOff) : event.added? = none := by
  cases event with
  | popped => rfl
  | _ => cases off

theorem excessLe (events : List (Event H)) (allowed : Nat) : excess events ≤ allowed ↔
    ∀ begun, begun <+: events →
      begun.countP Event.takesOff ≤ begun.countP Event.adds + allowed := by
  induction events generalizing allowed with
  | nil => simp [excess]
  | cons event rest ih =>
    have later : (∀ begun, begun <+: event :: rest →
        begun.countP Event.takesOff ≤ begun.countP Event.adds + allowed) ↔
        ∀ begun, begun <+: rest →
          (event :: begun).countP Event.takesOff ≤ (event :: begun).countP Event.adds + allowed := by
      refine ⟨fun all begun more => all _ (List.cons_prefix_cons.mpr ⟨rfl, more⟩), ?_⟩
      intro all begun more
      rcases List.prefix_cons_iff.mp more with rfl | ⟨begun', rfl, more'⟩
      · exact Nat.zero_le _
      · exact all begun' more'
    rw [later]
    by_cases off : event.takesOff
    · have idle : event.adds = false := by simp [Event.adds, addsNothing off]
      cases allowed with
      | zero =>
        simp only [excess, off, if_true, List.countP_cons, idle]
        refine ⟨nofun, fun all => ?_⟩
        exact absurd (all [] List.nil_prefix) nofun
      | succ allowed => simp [excess, off, idle, ← Nat.add_assoc, ih allowed]
    · by_cases on : event.adds
      · have inside := ih (allowed + 1)
        simp [excess, off, on, inside, Nat.add_right_comm, Nat.add_assoc]
      · simp [excess, off, on, ih allowed]

theorem sparesIff (events : List (Event H)) : Spares events ↔ excess events = 0 :=
  (excessLe events 0).symm.trans Nat.le_zero

instance (events : List (Event H)) : Decidable (Spares events) :=
  decidable_of_iff _ (sparesIff events).symm

/-- The frames that were put on and then spared, in the order in which they were put on. -/
def standing : List (Event H) → List (Frame H.Item)
  | [] => []
  | event :: rest => match event.added? with
      | none => standing rest
      | some frame => if Spares rest then frame :: standing rest else standing rest

theorem standingAppend (first second : List (Event H)) :
    excess (first ++ second) = excess first + (excess second - (standing first).length) ∧
      standing (first ++ second) =
        (standing first).take ((standing first).length - excess second) ++ standing second := by
  induction first with
  | nil => simp [excess, standing]
  | cons event rest ih =>
    obtain ⟨counted, kept⟩ := ih
    cases added : event.added? with
    | none =>
      have idle : event.adds = false := by simp [Event.adds, added]
      by_cases off : event.takesOff
      · simp [excess, standing, off, added, counted, kept]; omega
      · simp [excess, standing, off, idle, added, counted, kept]
    | some frame =>
      have on : event.adds := by simp [Event.adds, added]
      have off : event.takesOff = false := by
        cases taken : event.takesOff with
        | false => rfl
        | true => exact absurd ((addsNothing taken).symm.trans added) nofun
      simp only [List.cons_append, excess, standing, off, on, added, sparesIff, counted, kept]
      by_cases spared : excess rest = 0
      · by_cases fits : excess second ≤ (standing rest).length
        · have longer : (standing rest).length + 1 - excess second =
              (standing rest).length - excess second + 1 := by omega
          simp [spared, fits, longer]
          omega
        · have emptied : (standing rest).length + 1 - excess second = 0 := by omega
          have beyond : (standing rest).length - excess second = 0 := by omega
          simp [spared, emptied, beyond]
          omega
      · have more : excess rest + (excess second - (standing rest).length) ≠ 0 := by omega
        simp [spared]
        omega

theorem standingIdle {events : List (Event H)}
    (idle : ∀ event ∈ events, event.added? = none ∧ ¬ event.takesOff) :
    excess events = 0 ∧ standing events = [] := by
  induction events with
  | nil => exact ⟨rfl, rfl⟩
  | cons event rest ih =>
    obtain ⟨⟨kept, off⟩, later⟩ := List.forall_mem_cons.mp idle
    simpa [excess, standing, off, kept, Event.adds] using ih later

/-- The root and the declarations are as before, and the frames are those from before that are left,
with those that stand after the events. -/
structure Tracked (before : Stack H.Item) (events : List (Event H)) (after : Stack H.Item) : Prop where
  root : after.root = before.root
  models : after.models = before.models
  binds : after.binds = before.binds
  frames : after.pushed.reverse =
    before.pushed.reverse.take (before.pushed.length - excess events) ++ standing events

namespace Tracked
variable {stack : Stack H.Item}

theorem append {first second third : Stack H.Item} {before after : List (Event H)}
    (head : Tracked first before second) (tail : Tracked second after third) :
    Tracked first (before ++ after) third := by
  refine ⟨tail.root.trans head.root, tail.models.trans head.models, tail.binds.trans head.binds, ?_⟩
  obtain ⟨counted, kept⟩ := standingAppend before after
  have length := congrArg List.length head.frames
  simp only [List.length_append, List.length_take, List.length_reverse,
    Nat.min_eq_left (Nat.sub_le ..)] at length
  rw [tail.frames, head.frames, counted, kept, length]
  simp only [List.take_append, List.take_take, List.append_assoc, List.length_take,
    List.length_reverse, Nat.min_eq_left (Nat.sub_le ..)]
  generalize first.pushed.length = deep, (standing before).length = newer
  have older : min (deep - excess before + newer - excess after) (deep - excess before) =
      deep - (excess before + (excess after - newer)) := by omega
  have latest : deep - excess before + newer - excess after - (deep - excess before) =
      newer - excess after := by omega
  rw [older, latest]

theorem idle {events : List (Event H)}
    (idle : ∀ event ∈ events, event.added? = none ∧ ¬ event.takesOff) : Tracked stack events stack := by
  obtain ⟨none, empty⟩ := standingIdle idle
  refine ⟨rfl, rfl, rfl, ?_⟩
  simp [none, empty, List.take_of_length_le]

theorem added {event : Event H} {frame : Frame H.Item} (adds : event.added? = some frame) :
    Tracked stack [event] (stack.push frame) := by
  have off : ¬ event.takesOff := fun taken => nomatch (addsNothing taken).symm.trans adds
  have spared : Spares ([] : List (Event H)) := (sparesIff []).mpr rfl
  refine ⟨rfl, rfl, rfl, ?_⟩
  simp [Stack.push, excess, standing, adds, off, spared, Event.adds, List.take_of_length_le]

theorem popped (caller : Caller) (spans : List Span) :
    Tracked stack (Binding.poppings caller spans stack) stack.pop := by
  have taken : Tracked stack [(.popped caller stack.pop.depth : Event H)] stack.pop := by
    refine ⟨rfl, rfl, rfl, ?_⟩
    have shorter : stack.pushed.tail.reverse = stack.pushed.reverse.take (stack.pushed.length - 1) := by
      rw [← List.dropLast_reverse, List.dropLast_eq_take, List.length_reverse]
    simpa [excess, standing, Event.takesOff, Event.added?, Stack.pop] using shorter
  refine append (idle ?_) taken
  split
  · simp [Event.added?, Event.takesOff]
  · simp

end Tracked
namespace Binding

inductive Operation where
  | push (spec : Spec)
  | pushElement (index : Nat)
  | pop
  deriving DecidableEq

section
variable (evaluator : Evaluator H.State H.Item) (caller : Caller) (spans : List Span)

def Operation.act : Operation → Act H BindingError Unit
  | push spec => Binding.push evaluator caller spec
  | pushElement index => Binding.pushElement caller index
  | pop => Binding.pop caller spans

def Operation.Pushes : Operation → Prop
  | push _ => True
  | pushElement _ => True
  | pop => False

def operate : List Operation → Act H BindingError Unit
  | [] => pure ()
  | operation :: rest => do
      let _ ← (operation.act evaluator caller spans).attempt
      operate rest

theorem operateKeeps {R : Machine H → List (Event H) → Machine H → Prop} (chained : Chained R)
    (steps : ∀ operation : Operation, (operation.act evaluator caller spans).Keeps R)
    (operations : List Operation) : (operate evaluator caller spans operations).Keeps R := by
  induction operations with
  | nil => exact Act.keepsPure chained ()
  | cons operation rest ih =>
    exact Act.keepsBind chained (Act.keepsAttempt (steps operation)) fun _ => ih

/-- What one operation comes to: a push that fails leaves the stack alone. -/
inductive Effect (stack : Stack H.Item) : Operation → Except BindingError Unit → List (Event H) →
    Stack H.Item → Prop where
  | refused {spec error events depth} (derivation : Derivation stack spec (.error error) events) :
      Effect stack (.push spec) (.error error)
        (events ++ [.pushed caller spec (.error error) depth]) stack
  | pushed {spec frame events depth} (derivation : Derivation stack spec (.ok frame) events) :
      Effect stack (.push spec) (.ok ())
        (events ++ [.pushed caller spec (.ok frame) depth]) (stack.push frame)
  | outOfRange {index error depth} (missing : stack.elementFrame index = .error error) :
      Effect stack (.pushElement index) (.error error)
        [.iterated caller index (.error error) depth] stack
  | element {index frame depth} (derived : stack.elementFrame index = .ok frame) :
      Effect stack (.pushElement index) (.ok ())
        [.iterated caller index (.ok frame) depth] (stack.push frame)
  | popped : Effect stack .pop (.ok ()) (poppings caller spans stack) stack.pop

theorem actEffect (operation : Operation) (machine : Machine H) :
    let outcome := operation.act evaluator caller spans machine
    Effect caller spans machine.stack operation outcome.result outcome.events
      outcome.machine.stack := by
  cases operation with
  | push spec =>
    obtain ⟨state, result, events, derivation, _, same⟩ := pushSound evaluator caller spec machine
    simp only [Operation.act, same]
    cases result with
    | error error => exact .refused derivation
    | ok frame => exact .pushed derivation
  | pushElement index =>
    simp only [Operation.act, pushElementEq]
    cases derived : machine.stack.elementFrame index with
    | error error => exact .outOfRange derived
    | ok frame => exact .element derived
  | pop => exact .popped

theorem Effect.tracked {stack after : Stack H.Item} {operation : Operation}
    {result : Except BindingError Unit} {events : List (Event H)}
    (effect : Effect caller spans stack operation result events after) :
    Tracked stack events after := by
  have asked {spec result events} (derivation : Derivation stack spec result events) :
      Tracked stack events stack := by
    refine .idle fun event member => ?_
    obtain ⟨_, _, rfl⟩ := derivation.evaluates event member
    exact ⟨rfl, nofun⟩
  cases effect with
  | refused derivation =>
    exact (asked derivation).append (.idle (List.forall_mem_singleton.mpr ⟨rfl, nofun⟩))
  | pushed derivation => exact (asked derivation).append (.added rfl)
  | outOfRange missing => exact .idle (List.forall_mem_singleton.mpr ⟨rfl, nofun⟩)
  | element derived => exact .added rfl
  | popped => exact .popped caller spans

structure Orderly (operation : Operation) (stack : Stack H.Item) (result : Except BindingError Unit)
    (after : Stack H.Item) : Prop where
  refused : ∀ error, result = .error error → operation.Pushes ∧ after = stack
  pushed : operation.Pushes → result = .ok () → ∃ frame,
    after.frames = stack.frames ++ [frame] ∧ after.models = stack.models ∧
      after.binds = stack.binds ∧ after.pop = stack
  popped : ¬ operation.Pushes → result = .ok () ∧
    after.frames = if stack.depth = 1 then stack.frames else stack.frames.dropLast

theorem orderlyPush (operation : Operation) {stack : Stack H.Item} (pushes : operation.Pushes)
    (frame : Frame H.Item) : Orderly operation stack (.ok ()) (stack.push frame) where
  refused := nofun
  pushed _ _ := ⟨frame, stack.framesPush frame, rfl, rfl, stack.popPush frame⟩
  popped kept := absurd pushes kept

theorem orderlyRefusal (operation : Operation) {stack : Stack H.Item} (pushes : operation.Pushes)
    (error : BindingError) : Orderly operation stack (.error error) stack where
  refused _ _ := ⟨pushes, rfl⟩
  pushed := nofun
  popped kept := absurd pushes kept

theorem framesPop (stack : Stack H.Item) : stack.pop.frames =
    if stack.depth = 1 then stack.frames else stack.frames.dropLast := by
  cases pushed : stack.pushed with
  | nil => simp [Stack.pop, Stack.frames, Stack.depth, pushed]
  | cons frame below =>
    have frames : stack.frames = stack.pop.frames ++ [frame] := by
      simp [Stack.pop, Stack.frames, pushed]
    have deeper : stack.depth ≠ 1 := by simp [Stack.depth, pushed]
    rw [if_neg deeper, frames, List.dropLast_concat]

theorem currentLast (stack : Stack H.Item) : stack.frames.getLast? = some stack.current := by
  unfold Stack.frames Stack.current
  cases stack.pushed with
  | nil => rfl
  | cons frame below => rw [List.reverse_cons, ← List.cons_append, List.getLast?_concat]; rfl

theorem Effect.orderly {stack after : Stack H.Item} {operation : Operation}
    {result : Except BindingError Unit} {events : List (Event H)}
    (effect : Effect caller spans stack operation result events after) :
    Orderly operation stack result after := by
  cases effect with
  | refused derivation => exact orderlyRefusal (.push _) trivial _
  | pushed derivation => exact orderlyPush (.push _) trivial _
  | outOfRange missing => exact orderlyRefusal (.pushElement _) trivial _
  | element derived => exact orderlyPush (.pushElement _) trivial _
  | popped => exact ⟨nofun, False.elim, fun _ => ⟨rfl, framesPop stack⟩⟩

theorem operateTracked (operations : List Operation) :
    (operate evaluator caller spans operations).Keeps fun before events after =>
      Tracked before.stack events after.stack :=
  operateKeeps evaluator caller spans ⟨fun _ => .idle (List.forall_mem_nil _), .append⟩
    (fun operation machine => (actEffect evaluator caller spans operation machine).tracked) operations

theorem stackDiscipline (root : Frame H.Item) (models : StringMap (List H.Item))
    (binds : StringMap Bind) (state : H.State) (operations : List Operation) :
    let reached := operate evaluator caller spans operations ⟨state, ⟨root, [], models, binds⟩⟩
    let stack := reached.machine.stack
    1 ≤ stack.depth ∧ stack.frames.head? = some root ∧ stack.frames.getLast? = some stack.current ∧
      stack.models = models ∧ stack.binds = binds ∧ stack.frames = root :: standing reached.events ∧
      ∀ operation : Operation,
        let outcome := operation.act evaluator caller spans reached.machine
        Orderly operation stack outcome.result outcome.machine.stack := by
  intro reached stack
  have tracked := operateTracked evaluator caller spans operations ⟨state, ⟨root, [], models, binds⟩⟩
  have sameRoot : stack.root = root := tracked.root
  have frames : stack.frames = root :: standing reached.events := by
    have pushed : stack.pushed.reverse = standing reached.events := by simpa using tracked.frames
    rw [Stack.frames, sameRoot, pushed]
  refine ⟨Nat.le_add_left .., by rw [frames]; rfl, currentLast stack, tracked.models, tracked.binds,
    frames, fun operation => ?_⟩
  exact (actEffect evaluator caller spans operation reached.machine).orderly

/-- One pop too many, two pushes with an index out of range in between, and one pop. -/
example : let all : Spec := { Spec.anchored Counting.block "" with select? := some "all" }
    (standing (operate Counting.evaluator .handler []
      [.pop, .push all, .pushElement 3, .pushElement 2, .pop] Counting.machine).events).map
        Frame.focus = [⟨[1, 2], 1⟩] := by
  decide

end
end Binding

/- The same of whole runs, whatever handlers do to the stack. -/
namespace Interpreter

theorem quietTracked {before after : Machine H} {events : List (Event H)}
    (quiet : QuietStep before events after) : Tracked before.stack events after.stack := by
  rw [quiet.1]
  refine .idle fun event member => ?_
  have still := quiet.2 event member
  cases event with
  | pushed caller spec result depth =>
    cases result with
    | error error => exact ⟨rfl, nofun⟩
    | ok frame => exact still.elim
  | iterated caller index result depth =>
    cases result with
    | error error => exact ⟨rfl, nofun⟩
    | ok frame => exact still.elim
  | popped caller depth => exact still.elim
  | _ => exact ⟨rfl, nofun⟩

theorem opensAdded {event : Event H} {frame : Frame H.Item} (opens : event.Opens frame) :
    event.added? = some frame := by
  cases event with
  | pushed caller spec result depth =>
    cases caller <;> cases result <;> simp_all [Event.Opens, Event.added?]
  | iterated caller index result depth =>
    cases caller <;> cases result <;> simp_all [Event.Opens, Event.added?]
  | _ => exact opens.elim

theorem trackedInvariant :
    RunInvariant (H := H) fun before events after => Tracked before.stack events after.stack where
  still _ := .idle (List.forall_mem_nil _)
  join := .append
  quiet := quietTracked
  framed spans opens inside :=
    (Tracked.added (opensAdded opens)).append (inside.append (.popped .interpreter spans))
  execution action overridden? frame result inside := by
    have dispatched (stack : Stack H.Item) :
        Tracked stack [.dispatched action overridden? frame] stack :=
      .idle (List.forall_mem_singleton.mpr ⟨rfl, nofun⟩)
    have returned (stack : Stack H.Item) : Tracked stack [.returned action result] stack :=
      .idle (List.forall_mem_singleton.mpr ⟨rfl, nofun⟩)
    exact (dispatched _).append (inside.append (returned _))

theorem answerTracked (interpreter : Interpreter H) (call : Call H) :
    (interpreter.answer call).Keeps fun before events after =>
      Tracked before.stack events after.stack := by
  intro machine
  have operated (operation : Binding.Operation) := (Binding.actEffect interpreter.evaluator .handler
    interpreter.spans operation machine).tracked
  by_cases moves : call.MovesStack
  · cases call with
    | push spec => exact operated (.push spec)
    | pushElement index => exact operated (.pushElement index)
    | pop => exact operated .pop
    | _ => exact moves.elim
  · exact quietTracked (interpreter.quietAnswer moves machine)

theorem runActionTracked (interpreter : Interpreter H) (fuel : Nat) (spans : List Span)
    (action : Action) : (runAction fuel { interpreter with spans } action).Keeps
      fun before events after => Tracked before.stack events after.stack := by
  refine runActionKeeps trackedInvariant interpreter ?_ ?_ fuel spans action
  · exact fun fuel action runs spans _ _ _ => performKeeps trackedInvariant.toChained _
      (fun call _ => answerTracked _ call) (runs spans) (Program.usesAny (fun _ => trivial) _)
  · intro fuel spans action machine body ran inside
    have entered (stack : Stack H.Item) : Tracked stack [(.entered action : Event H)] stack :=
      .idle (List.forall_mem_singleton.mpr ⟨rfl, nofun⟩)
    have left (stack : Stack H.Item) :
        Tracked stack [(.left action (placed action body.result) : Event H)] stack :=
      .idle (List.forall_mem_singleton.mpr ⟨rfl, nofun⟩)
    exact (entered _).append (inside.append (left _))

theorem performTracked {α : Type} (interpreter : Interpreter H) (fuel : Nat) (program : Program H α) :
    (interpreter.perform (runAction fuel interpreter) program).Keeps
      fun before events after => Tracked before.stack events after.stack :=
  performKeeps trackedInvariant.toChained interpreter (fun call _ => answerTracked interpreter call)
    (runActionTracked interpreter fuel interpreter.spans) (Program.usesAny (fun _ => trivial) program)

end Interpreter
end ActionTree

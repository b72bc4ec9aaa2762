import ActionTree.Proofs.Finishing
import ActionTree.Proofs.Fuel
import ActionTree.Proofs.Sight
import ActionTree.Proofs.Verdicts

/-! Termination without `while`. A run ends with fuel for the height of its action. Actions run in
each other no deeper than that, and each is dispatched once at the most, or once for each item that
it captured. -/
namespace ActionTree
open Binding (Stack Frame Spec)
open Course
open Interpreter (PlacedError)
variable {H : Host}

def Event.enters : Event H → Bool
  | .entered _ => true
  | _ => false

def Event.leaves : Event H → Bool
  | .left _ _ => true
  | _ => false

theorem Event.Opens.apart {event : Event H} {frame : Frame H.Item} (opens : event.Opens frame) :
    event.enters = false ∧ event.leaves = false := by
  cases event with
  | entered => exact opens.elim
  | left => exact opens.elim
  | _ => exact ⟨rfl, rfl⟩

/-- At no time more than so many actions run in each other, and in the end all are left. -/
structure Overlaps (limit : Nat) (events : List (Event H)) : Prop where
  bounded {begun} (early : begun <+: events) :
    begun.countP Event.enters ≤ begun.countP Event.leaves + limit
  even : events.countP Event.enters = events.countP Event.leaves

namespace Overlaps
variable {limit : Nat} {before after inner : List (Event H)}

theorem nil : Overlaps limit ([] : List (Event H)) where
  bounded early := by simp [List.prefix_nil.mp early]
  even := rfl

theorem append (first : Overlaps limit before) (second : Overlaps limit after) :
    Overlaps limit (before ++ after) where
  bounded {begun} early := by
    rcases List.prefix_or_prefix_of_prefix early (List.prefix_append before after) with short | long
    · exact first.bounded short
    · obtain ⟨more, rfl⟩ := long
      have later := second.bounded ((List.prefix_append_right_inj before).mp early)
      have even := first.even
      simp only [List.countP_append]
      omega
  even := by simp only [List.countP_append, first.even, second.even]

theorem cons {event : Event H} (apart : event.enters = false ∧ event.leaves = false)
    (more : Overlaps limit after) : Overlaps limit (event :: after) where
  bounded {begun} early := by
    rcases List.prefix_cons_iff.mp early with rfl | ⟨rest, rfl, later⟩
    · exact Nat.zero_le _
    · simpa [apart] using more.bounded later
  even := by simpa [apart] using more.even

theorem level {action : Action} {result : Except ActionError Unit} (inside : Overlaps limit inner) :
    Overlaps (limit + 1) (.entered action :: (inner ++ [.left action result])) where
  bounded {begun} early := by
    rcases List.prefix_cons_iff.mp early with rfl | ⟨more, rfl, later⟩
    · exact Nat.zero_le _
    have within : more.countP Event.enters ≤ more.countP Event.leaves + limit := by
      rcases List.prefix_concat_iff.mp later with rfl | earlier
      · have even := inside.even
        rw [List.countP_append, List.countP_append, List.countP_singleton, List.countP_singleton]
        simp only [Event.enters, Event.leaves, Bool.false_eq_true, if_true, if_false]
        omega
      · exact inside.bounded earlier
    simp only [List.countP_cons, Event.enters, Event.leaves, Bool.false_eq_true, if_true, if_false]
    omega
  even := by
    simp only [List.countP_append, List.countP_cons, List.countP_nil, inside.even, Event.enters,
      Event.leaves, Bool.false_eq_true, if_true, if_false]

end Overlaps

theorem Nested.mono {P Q : Action → List (Event H) → Except ActionError Unit → Prop}
    {events : List (Event H)}
    (weaker : ∀ {action inner result}, P action inner result → Q action inner result)
    (nested : Nested P events) : Nested Q events := by
  induction nested with
  | nil => exact .nil
  | single single _ ih => exact .single single ih
  | frame opens _ _ inner ih => exact .frame opens inner ih
  | execution _ _ inner ih => exact .execution inner ih
  | level described _ _ inner ih => exact .level (weaker described) inner ih

/-- Runs of actions within runs of actions, as described and no deeper than this. -/
def Layered (P : Action → List (Event H) → Except ActionError Unit → Prop) :
    (depth : Nat) → List (Event H) → Prop
  | 0 => Nested fun _ _ _ => False
  | depth + 1 => Nested fun action inner result => P action inner result ∧ Layered P depth inner

namespace Layered
variable {P : Action → List (Event H) → Except ActionError Unit → Prop} {depth : Nat}
  {events : List (Event H)}

theorem nested (layered : Layered P depth events) : Nested P events := by
  cases depth with
  | zero => exact Nested.mono False.elim layered
  | succ depth => exact Nested.mono And.left layered

theorem deeper (layered : Layered P depth events) : Layered P (depth + 1) events := by
  induction depth generalizing events with
  | zero => exact Nested.mono False.elim layered
  | succ depth ih => exact Nested.mono (fun described => ⟨described.1, ih described.2⟩) layered

theorem level {action : Action} {inner : List (Event H)} {result : Except ActionError Unit}
    (described : P action inner result) (inside : Layered P depth inner) :
    Layered P (depth + 1) (.entered action :: (inner ++ [.left action result])) :=
  Nested.level ⟨described, inside⟩ inside.deeper .nil

theorem invariant (depth : Nat) : RunInvariant (H := H) fun _ events _ => Layered P depth events := by
  cases depth <;> exact Interpreter.nestedInvariant

theorem ofSingles (singles : ∀ event ∈ events, event.Single) : Layered P depth events := by
  cases depth <;> exact .ofSingles singles

theorem overlaps (layered : Layered P depth events) : Overlaps depth events := by
  -- On the depth, for what is inside a level, and on the journal at each depth.
  have along {Q : Action → List (Event H) → Except ActionError Unit → Prop} {limit : Nat}
      (levels : ∀ {action inner result}, Q action inner result →
        Overlaps limit (.entered action :: (inner ++ [.left action result])))
      {events : List (Event H)} (nested : Nested Q events) : Overlaps limit events := by
    induction nested with
    | nil => exact .nil
    | @single event _ single _ ih =>
      cases event with
      | entered => exact single.elim
      | left => exact single.elim
      | _ => exact ih.cons ⟨rfl, rfl⟩
    | frame opens _ _ inner ih => exact (inner.append (ih.cons ⟨rfl, rfl⟩)).cons opens.apart
    | execution _ _ inner ih => exact (inner.append (ih.cons ⟨rfl, rfl⟩)).cons ⟨rfl, rfl⟩
    | level described _ _ _ ih => simpa using (levels described).append ih
  induction depth generalizing events with
  | zero => exact along False.elim layered
  | succ depth ih => exact along (fun described => (ih described.2).level) layered

end Layered

/-- Shows so many dispatches at the most. -/
def Dispatches (limit : Nat) (events : List (Event H)) : Prop :=
  ∃ shown, Shows events shown ∧ shown.countP Event.dispatches ≤ limit

namespace Dispatches
variable {limit limit' : Nat} {events before after : List (Event H)}

theorem append (first : Dispatches limit before) (second : Dispatches limit' after) :
    Dispatches (limit + limit') (before ++ after) := by
  obtain ⟨shown, early, few⟩ := first
  obtain ⟨shown', late, few'⟩ := second
  refine ⟨shown ++ shown', early.append late, ?_⟩
  rw [List.countP_append]
  exact Nat.add_le_add few few'

theorem mono (few : Dispatches limit events) (less : limit ≤ limit') : Dispatches limit' events := by
  obtain ⟨shown, shows', few⟩ := few
  exact ⟨shown, shows', Nat.le_trans few less⟩

theorem none (undispatched : ∀ event ∈ events, event.dispatches = false) : Dispatches 0 events :=
  ⟨events, .undispatched undispatched,
    Nat.le_of_eq (List.countP_eq_zero.mpr fun event member => by simp [undispatched event member])⟩

theorem preceded (undispatched : ∀ event ∈ before, event.dispatches = false)
    (few : Dispatches limit after) : Dispatches limit (before ++ after) :=
  ((none undispatched).append few).mono (Nat.le_of_eq (Nat.zero_add limit))

theorem followed (few : Dispatches limit before)
    (undispatched : ∀ event ∈ after, event.dispatches = false) : Dispatches limit (before ++ after) :=
  few.append (none undispatched)

end Dispatches

/-- How often an action may be dispatched, by the frame that it gets. -/
def turns (action : Action) : Except BindingError (Frame H.Item) → Nat
  | .error _ => 0
  | .ok frame => if action.iterate?.isSome then frame.focus.items.length else 1

/-- After this request for its frame an action is dispatched no more often than it has turns. -/
inductive Limited (spec : Spec) (action : Action) : List (Event H) → Prop where
  | limited {asked result depth rest}
      (asking : ∀ event ∈ asked, ∃ request answer, event = .evaluated .binding .items request answer)
      (few : (own rest).countP Event.dispatches ≤ turns action result) :
      Limited spec action (asked ++ .pushed .interpreter spec result depth :: rest)

section
variable {interpreter : Interpreter H} {action : Action} {item? overridden? : Option H.Item}
  {execution : List Span → Program H Unit → Except ActionError Unit → List (Event H) → Prop}

theorem Event.Apart.undispatched {event : Event H} (apart : event.Apart) :
    event.dispatches = false := by
  cases event with
  | dispatched => exact apart.elim
  | _ => rfl

theorem poppingsUndispatched (spans : List Span) (stack : Stack H.Item) :
    ∀ event ∈ Binding.poppings .interpreter spans stack, event.dispatches = false := by
  unfold Binding.poppings
  split <;> simp [Event.dispatches]

theorem requestedUndispatched {spec : Spec} {result : Except BindingError (Frame H.Item)}
    {events : List (Event H)} (requested : Requested spec result events) :
    ∀ event ∈ events, event.dispatches = false := by
  cases requested with
  | requested derivation =>
    refine List.forall_mem_append.mpr ⟨fun event member => ?_, List.forall_mem_singleton.mpr rfl⟩
    exact (Level.derivationApart derivation event member).undispatched

theorem framedDispatches {ε : Type}
    {opens : Except BindingError (Frame H.Item) → List (Event H) → Prop} {change : BindingError → ε}
    {inside : Frame H.Item → Except ε Unit → List (Event H) → Prop} {limit : Nat}
    {result : Except ε Unit} {events : List (Event H)}
    (opening : ∀ {result events}, opens result events → ∀ event ∈ events, event.dispatches = false)
    (few : ∀ {frame result events}, inside frame result events → Dispatches limit events)
    (framed : Framed interpreter opens change inside result events) : Dispatches limit events := by
  cases framed with
  | refused refused => exact (Dispatches.none (opening refused)).mono (Nat.zero_le _)
  | framed stack opened body =>
    exact .preceded (opening opened) (.followed (few body) (poppingsUndispatched _ stack))

section
variable (nested : ∀ {spans program result events},
  execution spans program result events → Nested (fun _ _ _ => True) events)
include nested

theorem executedDispatches {result : Except ActionError Unit} {events : List (Event H)}
    (executed : Executed interpreter action execution overridden? result events) :
    Dispatches 1 events := by
  have opening (found : Bool) :
      ∀ event ∈ Level.opening interpreter action found, event.dispatches = false :=
    List.forall_mem_cons.mpr ⟨rfl, List.forall_mem_singleton.mpr rfl⟩
  have handling {handler result events} (framed : Framed interpreter
      (Requested (interpreter.targetSpec action)) .binding
      (Handled interpreter action execution handler overridden?) result events) :
      Dispatches 1 events := by
    refine framedDispatches requestedUndispatched (fun handled => ?_) framed
    cases handled with
    | handled executed =>
      exact ⟨_, .execution (nested executed) action overridden? _ _, Nat.le_refl 1⟩
  cases executed with
  | unknown unknown => exact (Dispatches.none (opening false)).mono (Nat.zero_le 1)
  | failed known framed => exact .preceded (opening true) (handling framed)
  | done known framed =>
    exact .preceded (opening true) (.followed (handling framed) (List.forall_mem_singleton.mpr rfl))

theorem passedDispatches {pass? : Option Nat} {result : Except ActionError Bool}
    {events : List (Event H)}
    (passed : Passed interpreter action execution item? overridden? pass? result events) :
    Dispatches 1 events := by
  have clear {stack result events}
      (clearance : Level.Clearance interpreter action stack item? result events) :
      ∀ event ∈ events, event.dispatches = false := fun event member =>
    (Level.clearanceApart clearance event member).undispatched
  cases passed with
  | unclear clearance => exact (Dispatches.none (clear clearance)).mono (Nat.zero_le 1)
  | held clearance => exact (Dispatches.none (clear clearance)).mono (Nat.zero_le 1)
  | failed clearance executed => exact .preceded (clear clearance) (executedDispatches nested executed)
  | executed clearance executed => exact .preceded (clear clearance) (executedDispatches nested executed)

variable (unrepeated : action.guard? .asLongAs = none)
include unrepeated

theorem repeatedDispatches {pass : Nat} {result : Except PlacedError Unit} {events : List (Event H)}
    (repeated : Repeated interpreter action execution item? overridden? pass result events) :
    Dispatches 1 events := by
  cases repeated with
  | failed last => exact passedDispatches nested last
  | held last => exact passedDispatches nested last
  | once once last => exact passedDispatches nested last
  | again repeats first rest => simp [unrepeated] at repeats

theorem elementsDispatch {elements : List (H.Item × Nat)} {result : Except PlacedError Unit}
    {events : List (Event H)}
    (turned : InTurn (Element interpreter action execution) elements result events) :
    Dispatches elements.length events := by
  have one {element result events}
      (ran : Element interpreter action execution element result events) : Dispatches 1 events := by
    cases ran with
    | element framed =>
      refine framedDispatches (fun indexed => ?_) (repeatedDispatches nested unrepeated) framed
      cases indexed with
      | indexed stack => exact List.forall_mem_singleton.mpr rfl
  induction turned with
  | none => exact .none (List.forall_mem_nil _)
  | failed failed => exact (one failed).mono (Nat.le_add_left 1 _)
  | next went _ ih => exact ((one went).append ih).mono (Nat.le_of_eq (Nat.add_comm 1 _))

theorem contentDispatches {frame : Frame H.Item} {result : Except PlacedError Unit}
    {events : List (Event H)} (content : Content interpreter action execution frame result events) :
    Dispatches (turns action (.ok frame)) events := by
  cases content with
  | single plain passes => simpa [turns, plain] using repeatedDispatches nested unrepeated passes
  | several iterates elements =>
    simpa [turns, iterates] using elementsDispatch nested unrepeated elements

theorem bodyLimited {result : Except PlacedError Unit} {events : List (Event H)}
    (body : Body interpreter action execution result events) :
    Limited (interpreter.groundSpec action) action events := by
  cases body with
  | refused refused =>
    cases refused with
    | requested derivation => exact .limited derivation.evaluates (Nat.zero_le _)
  | framed stack opened content =>
    cases opened with
    | requested derivation =>
      obtain ⟨shown, shows', few⟩ := (contentDispatches nested unrepeated content).followed
        (poppingsUndispatched interpreter.spans stack)
      rw [List.append_assoc, List.singleton_append]
      refine .limited derivation.evaluates ?_
      rwa [shows'.own]

end
end
namespace Interpreter
variable {interpreter : Interpreter H} {action : Action}

theorem levelLimited {fuel : Nat} {spans : List Span} {machine : Machine H}
    {body : Outcome H PlacedError Unit} (unrepeated : action.guard? .asLongAs = none)
    (ran : runBody (runAction fuel) { interpreter with spans } action (fuel + 1) machine = some body) :
    Limited (interpreter.groundSpec action) action body.events := by
  have executions : ExecutionsFollow (runAction fuel) { interpreter with spans } action
      fun _ _ _ events => Nested (fun _ _ _ => True) events :=
    fun _ _ _ _ _ machine outcome _ ended =>
      performNested _ (runActionBrackets interpreter fuel _) _ machine outcome ended
  have course := runBodyFollows executions _ _ machine body rfl ran
  have limited : Limited ({ interpreter with spans }.groundSpec action) action body.events :=
    bodyLimited (fun nested => nested) unrepeated course
  exact limited

/-- A run of an action in the tree of another, with its dispatches limited. -/
def Descends (interpreter : Interpreter H) (outermost nested : Action) (inner : List (Event H))
    (_ : Except ActionError Unit) : Prop :=
  nested ∈ outermost.subtree ∧ Limited (interpreter.groundSpec nested) nested inner

theorem runLayered (descend : interpreter.HandlersDescend) (fuel : Nat) (spans : List Span)
    {outermost : Action} (unrepeated : ∀ nested ∈ outermost.subtree, nested.guard? .asLongAs = none)
    (below : ∀ nested ∈ action.subtree, nested ∈ outermost.subtree) :
    (runAction fuel { interpreter with spans } action).Keeps fun _ events _ =>
      Layered (interpreter.Descends outermost) fuel events := by
  -- On the fuel, which is one less for each level.
  induction fuel generalizing spans action with
  | zero => intro machine outcome ended; cases ended
  | succ fuel ih =>
    intro machine outcome ended
    rw [runActionEq] at ended
    obtain ⟨body, ran, rfl⟩ := Option.map_eq_some_iff.mp ended
    have here : action ∈ outermost.subtree := by
      refine below action ?_
      rw [Action.subtreeEq]
      exact List.mem_cons_self
    have invariant := Layered.invariant (P := interpreter.Descends outermost) fuel
    have handled : Executions (runAction fuel) interpreter action
        (·.Keeps fun _ events _ => Layered (interpreter.Descends outermost) fuel events) := by
      intro spans overridden? handler found
      obtain ⟨uses, follows⟩ := descend action overridden? handler found
      let run := runAction fuel { interpreter with spans }
      refine (Run.sequencingKeeps invariant.toChained).perform run run
        (fun call _ => Run.keepsOfAct fun machine => .ofSingles (answerSingle _ call machine))
        (fun nested member => ?_) uses follows
      exact ih spans fun lower inside => below lower (Action.subtreeChild member inside)
    exact .level ⟨here, levelLimited (unrepeated action here) ran⟩
      (bodyKeeps invariant handled spans _ machine body ran)

/-- Without `while` a run of an action ends, with as much fuel as its tree is high. -/
theorem unrepeatedEnds (descend : interpreter.HandlersDescend)
    (unrepeated : ∀ nested ∈ action.subtree, nested.guard? .asLongAs = none) (machine : Machine H) :
    ∃ outcome, (∀ fuel, action.height ≤ fuel →
        interpreter.runAction fuel action machine = some outcome) ∧
      Overlaps action.height outcome.events ∧ Nested (interpreter.Descends action) outcome.events := by
  obtain ⟨outcome, ended⟩ := runFinishes descend action.height interpreter.spans unrepeated
    (Nat.le_refl _) machine
  have layered := runLayered descend action.height interpreter.spans unrepeated
    (fun _ inside => inside) machine outcome ended
  exact ⟨outcome, fun fuel enough => runActionOnward enough ended, layered.overlaps, layered.nested⟩

end Interpreter

namespace Counting

def twofold : Action := action "block" [] [action "watch" [("iterate", "all")] []]

def dispatched (outcome : Outcome host ActionError Unit) : Nat :=
  outcome.events.countP Event.dispatches

end Counting

theorem Interpreter.unrepeatedEndsTwofold : Counting.twofold.height = 2 ∧ ∃ outcome,
    (∀ fuel, 2 ≤ fuel →
      Counting.interpreter.runAction fuel Counting.twofold Counting.machine = some outcome) ∧
    Counting.dispatched outcome = 3 ∧ Overlaps 2 outcome.events ∧
    Nested (Counting.interpreter.Descends Counting.twofold) outcome.events := by
  have height : Counting.twofold.height = 2 := by decide +kernel
  have unrepeated : ∀ nested ∈ Counting.twofold.subtree, nested.guard? .asLongAs = none := by
    decide +kernel
  have descend : Counting.interpreter.HandlersDescend :=
    Counting.handlersKeepTo (fun _ => trivial) fun _ _ member => member
  obtain ⟨outcome, ended, overlaps, nested⟩ := unrepeatedEnds descend unrepeated Counting.machine
  rw [height] at ended overlaps
  have counted : (Counting.interpreter.runAction 2 Counting.twofold Counting.machine).map
      Counting.dispatched = some 3 := by decide +kernel
  rw [ended 2 (Nat.le_refl 2)] at counted
  exact ⟨height, outcome, ended, Option.some.inj counted, overlaps, nested⟩

end ActionTree

import ActionTree.Proofs.Following
import ActionTree.Proofs.Marks

/-! How single iterations end. One with a `while` condition goes on pass by pass until a condition
does not hold, and the log says so once. -/
namespace ActionTree
open Binding (Stack Frame Spec)
open Course
open Interpreter (PlacedError inPass inElement placed)
variable {H : Host}

def Event.skips (event : Event H) : Bool := event.says "not executing"

def Unskipped (events : List (Event H)) : Prop :=
  ∃ shown, Shows events shown ∧ ∀ event ∈ shown, event.skips = false

namespace Unskipped

theorem append {before after : List (Event H)} (first : Unskipped before) (second : Unskipped after) :
    Unskipped (before ++ after) := by
  obtain ⟨shown, early, unskipped⟩ := first
  obtain ⟨shown', late, unskipped'⟩ := second
  exact ⟨shown ++ shown', early.append late, List.forall_mem_append.mpr ⟨unskipped, unskipped'⟩⟩

theorem plain {events : List (Event H)}
    (plain : ∀ event ∈ events, event.dispatches = false ∧ event.skips = false) : Unskipped events :=
  ⟨events, .undispatched fun event member => (plain event member).1,
    fun event member => (plain event member).2⟩

theorem single {event : Event H} (undispatched : event.dispatches = false)
    (unskipped : event.skips = false) : Unskipped [event] :=
  .plain (List.forall_mem_singleton.mpr ⟨undispatched, unskipped⟩)

theorem poppings (spans : List Span) (stack : Stack H.Item) :
    Unskipped (Binding.poppings .interpreter spans stack) := by
  unfold Binding.poppings
  split
  · exact (single rfl rfl : Unskipped [.logged .rootPopIgnored spans]).append (.single rfl rfl)
  · exact .single rfl rfl

end Unskipped

section
variable (interpreter : Interpreter H) (action : Action) (item? : Option H.Item)

/-- How a single iteration ended, by its result and its own events. -/
inductive Verdict : Except PlacedError Unit → List (Event H) → Prop where
  | failed {error events} (unskipped : ∀ event ∈ events, event.skips = false) :
      Verdict (.error error) events
  | executed {before spans} (once : action.guard? .asLongAs = none)
      (unskipped : ∀ event ∈ before, event.skips = false) :
      Verdict (.ok ()) (before ++ [.logged .done spans])
  | missing {guard expression} (nothing : item? = none)
      (present : action.guard? guard = some expression)
      (first : guard = .onlyIf ∨ action.guard? .onlyIf = none) :
      Verdict (.ok ()) [interpreter.logged (.skipped action.name guard .missingContext)]
  | evaluatedFalse {before checked stack guard expression item} {items : List H.Item}
      (here : item? = some item) (present : action.guard? guard = some expression)
      (first : guard = .onlyIf ∨
        Level.Check interpreter action stack item? .onlyIf (.ok true) checked)
      (unskipped : ∀ event ∈ before ++ checked, event.skips = false)
      (truth : items.head?.bind H.truth? = some false) :
      Verdict (.ok ()) (before ++ (checked ++
        [.evaluated .guard .items (Level.guardRequest interpreter action stack expression item)
            (.ok items),
          interpreter.logged (.skipped action.name guard (.evaluatedFalse expression))]))

variable (iteration : Option H.Item → Except PlacedError Unit → List (Event H) → Prop)

inductive InElement : H.Item × Nat → Except PlacedError Unit → List (Event H) → Prop where
  | element {item index result events} (framed : Framed interpreter (Indexed index)
      (fun error => inPass none (.binding error)) (fun _ => iteration (some item)) result events) :
      InElement (item, index) (result.mapError (inElement index)) events

inductive Iterations (frame : Frame H.Item) : Except PlacedError Unit → List (Event H) → Prop where
  | single {result events} (plain : action.iterate? = none)
      (alone : iteration frame.contextItem? result events) : Iterations frame result events
  | several {result events} (iterates : action.iterate?.isSome)
      (each : InTurn (InElement interpreter iteration) (frame.focus.items.zipIdx 1) result events) :
      Iterations frame result events

def Processed : Except PlacedError Unit → List (Event H) → Prop :=
  Framed interpreter (Requested (interpreter.groundSpec action))
    (fun error => inPass none (.binding error)) (Iterations interpreter action iteration)

end
section
variable {interpreter : Interpreter H} {action : Action} {item? overridden? : Option H.Item}
  {execution : List Span → Program H Unit → Except ActionError Unit → List (Event H) → Prop}

theorem checkPlain {stack : Stack H.Item} {guard : Guard} {result : Except ActionError Bool}
    {events : List (Event H)} (met : result ≠ .ok false)
    (check : Level.Check interpreter action stack item? guard result events) :
    ∀ event ∈ events, event.dispatches = false ∧ event.skips = false := by
  cases check with
  | absent absent => exact List.forall_mem_nil _
  | missing present missing => exact absurd rfl met
  | fails present here truth => exact absurd rfl met
  | _ => exact List.forall_mem_singleton.mpr ⟨rfl, rfl⟩

theorem clearancePlain {stack : Stack H.Item} {result : Except ActionError Bool}
    {events : List (Event H)} (met : result ≠ .ok false)
    (clearance : Level.Clearance interpreter action stack item? result events) :
    ∀ event ∈ events, event.dispatches = false ∧ event.skips = false := by
  cases clearance with
  | first unmet check => exact checkPlain met check
  | both check next =>
    exact List.forall_mem_append.mpr ⟨checkPlain (by simp) check, checkPlain met next⟩

theorem requestedUnskipped {spec : Spec} {result : Except BindingError (Frame H.Item)}
    {events : List (Event H)} (requested : Requested spec result events) : Unskipped events := by
  cases requested with
  | requested derivation =>
    refine (Unskipped.plain fun event member => ?_).append (.single rfl rfl)
    obtain ⟨request, answer, rfl⟩ := derivation.evaluates event member
    exact ⟨rfl, rfl⟩

theorem heldVerdict {stack : Stack H.Item} {events : List (Event H)}
    (clearance : Level.Clearance interpreter action stack item? (.ok false) events) :
    Verdict interpreter action item? (.ok ()) events ∧ Shows events events := by
  cases clearance with
  | first unmet check =>
    cases check with
    | missing present missing =>
      exact ⟨.missing missing present (.inl rfl), .undispatched (List.forall_mem_singleton.mpr rfl)⟩
    | fails present here truth =>
      refine ⟨?_, .undispatched
        (List.forall_mem_cons.mpr ⟨rfl, List.forall_mem_singleton.mpr rfl⟩)⟩
      exact @Verdict.evaluatedFalse H interpreter action item? [] [] stack .onlyIf _ _ _ here present
        (.inl rfl) (List.forall_mem_nil _) truth
  | both check next =>
    have plain := checkPlain (by simp) check
    cases next with
    | missing present missing =>
      cases check with
      | absent absent =>
        exact ⟨.missing missing present (.inr absent),
          .undispatched (List.forall_mem_singleton.mpr rfl)⟩
      | holds guarded here truth => exact absurd (missing.symm.trans here) nofun
    | fails present here truth =>
      have verdict := @Verdict.evaluatedFalse H interpreter action item? [] _ stack .asLongAs _ _ _
        here present (.inr check) (fun event member => (plain event member).2) truth
      exact ⟨verdict, (Shows.undispatched fun event member => (plain event member).1).append
        (.undispatched (List.forall_mem_cons.mpr ⟨rfl, List.forall_mem_singleton.mpr rfl⟩))⟩

theorem Verdict.after {item : H.Item} {before events : List (Event H)}
    {result : Except PlacedError Unit} (here : item? = some item)
    (unskipped : ∀ event ∈ before, event.skips = false)
    (verdict : Verdict interpreter action item? result events) :
    Verdict interpreter action item? result (before ++ events) := by
  cases verdict with
  | failed others => exact .failed (List.forall_mem_append.mpr ⟨unskipped, others⟩)
  | executed once others =>
    rw [← List.append_assoc]
    exact .executed once (List.forall_mem_append.mpr ⟨unskipped, others⟩)
  | missing nothing present first => exact absurd (nothing.symm.trans here) nofun
  | evaluatedFalse here present first others truth =>
    rw [← List.append_assoc]
    refine .evaluatedFalse here present first ?_ truth
    rw [List.append_assoc]
    exact List.forall_mem_append.mpr ⟨unskipped, others⟩

section
variable (nested : ∀ {spans program result events},
  execution spans program result events → Nested (fun _ _ _ => True) events)
include nested

theorem executedUnskipped {result : Except ActionError Unit} {events : List (Event H)}
    (executed : Executed interpreter action execution overridden? result events) :
    Unskipped events ∧ (result = .ok () → ∃ before,
      events = before ++ [interpreter.logged .done] ∧ Unskipped before) := by
  have opening (found : Bool) : Unskipped (Level.opening interpreter action found) :=
    .plain (List.forall_mem_cons.mpr ⟨⟨rfl, rfl⟩, List.forall_mem_singleton.mpr ⟨rfl, rfl⟩⟩)
  have handling {handler result events} (framed : Framed interpreter
      (Requested (interpreter.targetSpec action)) .binding
      (Handled interpreter action execution handler overridden?) result events) :
      Unskipped events := by
    cases framed with
    | refused refused => exact requestedUnskipped refused
    | @framed frame _ _ _ stack opened handled =>
      cases handled with
      | @handled inner executed =>
        have inside : Unskipped
            (.dispatched action overridden? frame :: (inner ++ [.returned action result])) :=
          ⟨_, .execution (nested executed) action overridden? frame _,
            List.forall_mem_cons.mpr ⟨rfl, List.forall_mem_singleton.mpr rfl⟩⟩
        exact (requestedUnskipped opened).append (inside.append (.poppings _ stack))
  cases executed with
  | unknown unknown => exact ⟨opening false, nofun⟩
  | failed known framed => exact ⟨(opening true).append (handling framed), nofun⟩
  | done known framed =>
    have early := (opening true).append (handling framed)
    rw [← List.append_assoc]
    exact ⟨early.append (.single rfl rfl), fun _ => ⟨_, rfl, early⟩⟩

theorem repeatedVerdict {pass : Nat} {result : Except PlacedError Unit} {events : List (Event H)}
    (repeated : Repeated interpreter action execution item? overridden? pass result events) :
    ∃ shown, Shows events shown ∧ Verdict interpreter action item? result shown := by
  -- On the passes. All but the last have no skip, and that there is a next shows that there is
  -- an item.
  induction repeated with
  | failed last =>
    cases last with
    | unclear clearance =>
      obtain ⟨shown, shows', unskipped⟩ := Unskipped.plain (clearancePlain (by simp) clearance)
      exact ⟨shown, shows', .failed unskipped⟩
    | failed clearance executed =>
      obtain ⟨shown, shows', unskipped⟩ := (Unskipped.plain
        (clearancePlain (by simp) clearance)).append (executedUnskipped nested executed).1
      exact ⟨shown, shows', .failed unskipped⟩
  | held last =>
    cases last with
    | held clearance =>
      obtain ⟨verdict, shows'⟩ := heldVerdict clearance
      exact ⟨_, shows', verdict⟩
  | once once last =>
    cases last with
    | executed clearance executed =>
      obtain ⟨before, rfl, early⟩ := (executedUnskipped nested executed).2 rfl
      obtain ⟨shown, shows', unskipped⟩ :=
        (Unskipped.plain (clearancePlain (by simp) clearance)).append early
      rw [← List.append_assoc]
      exact ⟨_, shows'.append (.undispatched (List.forall_mem_singleton.mpr rfl)),
        .executed once unskipped⟩
  | again repeats first rest ih =>
    obtain ⟨later, others, verdict⟩ := ih
    cases first with
    | executed clearance executed =>
      obtain ⟨shown, shows', unskipped⟩ := (Unskipped.plain
        (clearancePlain (by simp) clearance)).append (executedUnskipped nested executed).1
      cases clearance with
      | first unmet check => exact absurd rfl unmet
      | both check next =>
        cases next with
        | absent absent => simp [absent] at repeats
        | holds present here truth =>
          exact ⟨_, shows'.append others, verdict.after here unskipped⟩

end
section
variable {iteration : Option H.Item → Except PlacedError Unit → List (Event H) → Prop}

theorem processedOfBody {result : Except PlacedError Unit} {events : List (Event H)}
    (each : ∀ {item? overridden? result events},
      Repeated interpreter action execution item? overridden? 1 result events →
      iteration item? result events)
    (body : Body interpreter action execution result events) :
    Processed interpreter action iteration result events := by
  refine Framed.mono (fun content => ?_) body
  cases content with
  | single plain passes => exact .single plain (each passes)
  | several iterates elements =>
    refine .several iterates (elements.mono fun ran => ?_)
    cases ran with
    | element framed => exact .element (framed.mono each)

end
end
namespace Interpreter

def Processes (interpreter : Interpreter H) (action : Action) (inner : List (Event H))
    (result : Except ActionError Unit) : Prop :=
  ∃ spans ended, result = placed action ended ∧
    Processed { interpreter with spans } action
      (fun item? result events => Verdict { interpreter with spans } action item? result (own events))
      ended inner

theorem runActionProcesses (interpreter : Interpreter H) (fuel : Nat) (spans : List Span)
    (action : Action) : (runAction fuel { interpreter with spans } action).Keeps
      fun _ events _ => Nested interpreter.Processes events := by
  refine runActionNested interpreter ?_ fuel spans action
  intro fuel spans action machine body ran
  have executions : ExecutionsFollow (runAction fuel) { interpreter with spans } action
      fun _ _ _ events => Nested (fun _ _ _ => True) events :=
    fun _ _ _ _ _ machine outcome _ ended =>
      performNested _ (runActionBrackets interpreter fuel _) _ machine outcome ended
  refine ⟨spans, body.result, rfl, processedOfBody (fun repeated => ?_)
    (runBodyFollows executions _ _ machine body rfl ran)⟩
  obtain ⟨shown, shows', verdict⟩ := repeatedVerdict id repeated
  rwa [shows'.own]

end Interpreter
end ActionTree

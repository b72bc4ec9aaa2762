import ActionTree.Proofs.Quiet

/-! The shape of a journal. Actions, executions of handlers and frames of the interpreter are
brackets in it, and brackets close in the opposite order of opening. What a run of one action
adds itself is what remains when the inside of each execution of a handler is left out. -/
namespace ActionTree
open Binding (Frame)
variable {H : Host}

def Event.Opens (frame : Frame H.Item) : Event H → Prop
  | .pushed .interpreter _ (.ok derived) _ => derived = frame
  | .iterated .interpreter _ (.ok derived) _ => derived = frame
  | _ => False

def Event.Single : Event H → Prop
  | .entered _ => False
  | .left _ _ => False
  | .dispatched _ _ _ => False
  | .returned _ _ => False
  | .pushed .interpreter _ (.ok _) _ => False
  | .iterated .interpreter _ (.ok _) _ => False
  | .popped .interpreter _ => False
  | _ => True

/-- A well-nested journal in which every run of an action, told by what happened in it and
by its result, is as described. -/
inductive Nested (P : Action → List (Event H) → Except ActionError Unit → Prop) :
    List (Event H) → Prop where
  | nil : Nested P []
  | single {event rest} (single : event.Single) (more : Nested P rest) : Nested P (event :: rest)
  | frame {event frame inner depth rest} (opens : event.Opens frame) (inside : Nested P inner)
      (more : Nested P rest) : Nested P (event :: (inner ++ .popped .interpreter depth :: rest))
  | execution {action overridden? frame inner result rest} (inside : Nested P inner)
      (more : Nested P rest) :
      Nested P (.dispatched action overridden? frame :: (inner ++ .returned action result :: rest))
  | level {action inner result rest} (described : P action inner result) (inside : Nested P inner)
      (more : Nested P rest) : Nested P (.entered action :: (inner ++ .left action result :: rest))

namespace Nested
variable {P : Action → List (Event H) → Except ActionError Unit → Prop}

theorem append {before after : List (Event H)} (first : Nested P before) (second : Nested P after) :
    Nested P (before ++ after) := by
  induction first with
  | nil => exact second
  | single single _ ih => exact .single single ih
  | frame opens inside _ _ ih => simpa using Nested.frame opens inside ih
  | execution inside _ _ ih => simpa using Nested.execution inside ih
  | level described inside _ _ ih => simpa using Nested.level described inside ih

theorem ofSingles {events : List (Event H)} (singles : ∀ event ∈ events, event.Single) :
    Nested P events := by
  induction events with
  | nil => exact .nil
  | cons event rest ih =>
    exact .single (singles event (by simp)) (ih fun other member => singles other (by simp [member]))

end Nested

theorem Event.Quiet.single {event : Event H} (quiet : event.Quiet) : event.Single := by
  cases event with
  | pushed caller spec result depth => cases result <;> cases caller <;> trivial
  | iterated caller index result depth => cases result <;> cases caller <;> trivial
  | _ => trivial

def Event.dispatches : Event H → Bool
  | .dispatched _ _ _ => true
  | _ => false

/-- Leaves out what happens in executions of handlers, `depth` of which are going on. -/
def ownFrom : (depth : Nat) → List (Event H) → List (Event H)
  | _, [] => []
  | 0, .dispatched action overridden? frame :: rest =>
      .dispatched action overridden? frame :: ownFrom 1 rest
  | 0, event :: rest => event :: ownFrom 0 rest
  | depth + 1, .dispatched _ _ _ :: rest => ownFrom (depth + 2) rest
  | 1, .returned action result :: rest => .returned action result :: ownFrom 0 rest
  | depth + 2, .returned _ _ :: rest => ownFrom (depth + 1) rest
  | depth + 1, _ :: rest => ownFrom (depth + 1) rest

def own (events : List (Event H)) : List (Event H) := ownFrom 0 events

theorem ownFromNested {P : Action → List (Event H) → Except ActionError Unit → Prop}
    {inner : List (Event H)} (nested : Nested P inner) (depth : Nat) (rest : List (Event H)) :
    ownFrom (depth + 1) (inner ++ rest) = ownFrom (depth + 1) rest := by
  -- On the nesting, at every depth: a nested execution is left one level deeper than it began.
  induction nested generalizing depth rest with
  | nil => rfl
  | @single event _ single _ ih => cases event <;> simp_all [Event.Single, ownFrom]
  | @frame event frame inner closing tail opens _ _ inside more =>
    cases event <;> simp_all [Event.Opens, ownFrom]
  | execution _ _ inside more => simp [ownFrom, inside, more]
  | level _ _ _ inside more => simp [ownFrom, inside, more]

/-- What a stretch of a journal adds to the events of the action that runs in it. -/
def Shows (events shown : List (Event H)) : Prop :=
  ∀ rest, own (events ++ rest) = shown ++ own rest

namespace Shows

theorem own {events shown : List (Event H)} (shows' : Shows events shown) :
    ActionTree.own events = shown := by
  have alone := shows' []
  simpa [ActionTree.own, ownFrom] using alone

theorem nil : Shows (H := H) [] [] := fun _ => rfl

theorem append {before after shown shown' : List (Event H)} (first : Shows before shown)
    (second : Shows after shown') : Shows (before ++ after) (shown ++ shown') := by
  intro rest
  rw [List.append_assoc, first, second, List.append_assoc]

theorem single (event : Event H) (plain : ∀ action overridden? frame,
    event ≠ .dispatched action overridden? frame) : Shows [event] [event] := by
  intro rest
  cases event with
  | dispatched action overridden? frame => exact absurd rfl (plain action overridden? frame)
  | _ => rfl

theorem undispatched {events : List (Event H)}
    (undispatched : ∀ event ∈ events, event.dispatches = false) : Shows events events := by
  induction events with
  | nil => exact nil
  | cons event rest ih =>
    obtain ⟨here, later⟩ := List.forall_mem_cons.mp undispatched
    refine append (single event ?_) (ih later)
    rintro _ _ _ rfl
    exact absurd here nofun

theorem quiet {events : List (Event H)} (quiet : ∀ event ∈ events, event.Quiet) :
    Shows events events := by
  refine undispatched fun event member => ?_
  cases event with
  | dispatched action overridden? frame => exact (quiet _ member).elim
  | _ => rfl

theorem execution {P : Action → List (Event H) → Except ActionError Unit → Prop}
    {inner : List (Event H)} (nested : Nested P inner) (action : Action)
    (overridden? : Option H.Item) (frame : Frame H.Item) (result : Except ActionError Unit) :
    Shows (.dispatched action overridden? frame :: (inner ++ [.returned action result]))
      [.dispatched action overridden? frame, .returned action result] := by
  intro rest
  simp [ActionTree.own, ownFrom, ownFromNested nested]

end Shows
end ActionTree

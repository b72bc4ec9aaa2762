import ActionTree.Proofs.Invariance

/-! The frames of the binding stack after the run of an action are those before it, however
the run ended, as long as the same is true of each execution of a handler. -/
namespace ActionTree
open Binding (Stack)
variable {H : Host}

/-- Every pop that finds the root frame alone is one that a handler asked for. -/
inductive Heeded : List (Event H) → Prop where
  | nil : Heeded []
  | other {event rest} (other : ∀ spans, event ≠ .logged .rootPopIgnored spans) (more : Heeded rest) :
      Heeded (event :: rest)
  | ignored {spans depth rest} (more : Heeded rest) :
      Heeded (.logged .rootPopIgnored spans :: .popped .handler depth :: rest)

namespace Heeded

theorem append {before after : List (Event H)} (first : Heeded before) (second : Heeded after) :
    Heeded (before ++ after) := by
  induction first with
  | nil => exact second
  | other other _ ih => exact .other other ih
  | ignored _ ih => exact .ignored ih

theorem ofOthers {events : List (Event H)}
    (others : ∀ event ∈ events, ∀ spans, event ≠ .logged .rootPopIgnored spans) : Heeded events := by
  induction events with
  | nil => exact .nil
  | cons event rest ih =>
    exact .other (others event (by simp)) (ih fun later member => others later (by simp [member]))

theorem ofQuiet {events : List (Event H)} (quiet : ∀ event ∈ events, event.Quiet) : Heeded events := by
  refine ofOthers ?_
  rintro event member spans rfl
  exact quiet _ member rfl

theorem poppings (spans : List Span) (stack : Stack H.Item) :
    Heeded (Binding.poppings .handler spans stack) := by
  unfold Binding.poppings
  split
  · exact .ignored .nil
  · exact .other (by simp) .nil

end Heeded

namespace Interpreter

theorem answerHeeded (interpreter : Interpreter H) (call : Call H) :
    (interpreter.answer call).Keeps fun _ events _ => Heeded events := by
  by_cases moves : call.MovesStack
  · cases call with
    | push spec =>
      intro machine
      obtain ⟨state, result, events, _, quiet, same⟩ :=
        Binding.pushSound interpreter.evaluator .handler spec machine
      change Heeded (Binding.push interpreter.evaluator .handler spec machine).events
      rw [same]
      exact (Heeded.ofQuiet quiet).append (.other (by simp) .nil)
    | pushElement index =>
      intro machine
      change Heeded (Binding.pushElement .handler index machine).events
      rw [Binding.pushElementEq]
      exact .other (by simp) .nil
    | pop => exact fun machine => Heeded.poppings interpreter.spans machine.stack
    | _ => exact moves.elim
  · exact fun machine => Heeded.ofQuiet (interpreter.quietAnswer moves machine).2

theorem heededChained : Chained (H := H) fun _ events _ => Heeded events :=
  ⟨fun _ => .nil, Heeded.append⟩

def Restored (before : Machine H) (events : List (Event H)) (after : Machine H) : Prop :=
  after.stack.frames = before.stack.frames ∧ Heeded events

theorem framesEqIff (first second : Stack H.Item) : first.frames = second.frames ↔
    first.root = second.root ∧ first.pushed = second.pushed := by
  simp [Stack.frames]

theorem restoredInvariant : RunInvariant (H := H) Restored where
  still _ := ⟨rfl, .nil⟩
  join first second := ⟨second.1.trans first.1, first.2.append second.2⟩
  quiet quiet := ⟨congrArg Stack.frames quiet.1, Heeded.ofQuiet quiet.2⟩
  framed {before inside frame event events} spans opens kept := by
    -- The inside gave back the frame it began with, so it is this frame that is popped.
    obtain ⟨sameRoot, samePushed⟩ := (framesEqIff _ _).mp kept.1
    change inside.stack.pushed = frame :: before.stack.pushed at samePushed
    have heeded : Binding.poppings .interpreter spans inside.stack =
        [.popped .interpreter inside.stack.pop.depth] := by
      simp [Binding.poppings, samePushed]
    constructor
    · refine (framesEqIff _ _).mpr ⟨sameRoot, ?_⟩
      change inside.stack.pushed.tail = before.stack.pushed
      rw [samePushed]
      rfl
    · rw [heeded]
      refine .other ?_ (kept.2.append (.other (by simp) .nil))
      rintro _ rfl
      exact opens
  execution _ _ _ _ inside := ⟨inside.1, .other (by simp) (inside.2.append (.other (by simp) .nil))⟩

def FramesKept (before : Machine H) (_ : List (Event H)) (after : Machine H) : Prop :=
  after.stack.frames = before.stack.frames

/-- Each execution of a handler that ends leaves the frames as it found them. -/
def HandlersRestore (interpreter : Interpreter H) : Prop :=
  ∀ fuel action, Executions (runAction fuel) interpreter action (·.Keeps FramesKept)

/-- No handler asks for a stack operation; it may still run actions. -/
def HandlersStay (interpreter : Interpreter H) : Prop :=
  ∀ action overridden? handler, interpreter.handlerFor action.name = some handler →
    (handler (interpreter.dispatch action overridden?)).Uses fun call => ¬ call.MovesStack

variable {interpreter : Interpreter H}

theorem restoredLevels {before after : Machine H} {events : List (Event H)} (action : Action)
    (result : Except ActionError Unit) (restored : Restored before events after) :
    Restored before (.entered action :: (events ++ [.left action result])) after :=
  ⟨restored.1, .other (by simp) (restored.2.append (.other (by simp) .nil))⟩

theorem runActionRestored (restore : interpreter.HandlersRestore) (fuel : Nat) (spans : List Span)
    (action : Action) : (runAction fuel { interpreter with spans } action).Keeps Restored := by
  refine runActionKeeps restoredInvariant interpreter ?_
    (fun _ _ action _ body _ restored => restoredLevels action (placed action body.result) restored)
    fuel spans action
  intro fuel action runs spans overridden? handler found machine outcome ended
  have heeded := performKeeps heededChained { interpreter with spans }
    (fun call _ => answerHeeded _ call)
    (fun nested machine outcome ran => (runs spans nested machine outcome ran).2)
    (Program.usesAny (fun _ => trivial) (handler (interpreter.dispatch action overridden?)))
  exact ⟨restore fuel action spans overridden? handler found machine outcome ended,
    heeded machine outcome ended⟩

theorem performRestored (spans : List Span) {run : Action → Run H ActionError Unit}
    (runs : ∀ nested, (run nested).Keeps Restored) {program : Program H Unit}
    (stays : program.Uses fun call => ¬ call.MovesStack) :
    ({ interpreter with spans }.perform run program).Keeps Restored :=
  performKeeps restoredInvariant.toChained _
    (fun _ allowed machine => restoredInvariant.quiet (quietAnswer _ allowed machine)) runs stays

theorem restoreOfStay (stay : interpreter.HandlersStay) : interpreter.HandlersRestore := by
  -- A handler may run actions; these restore by induction, as `stay` answers for their handlers.
  intro fuel action spans overridden? handler found machine outcome ended
  have runs (nested : Action) : (runAction fuel { interpreter with spans } nested).Keeps Restored :=
    runActionKeeps restoredInvariant interpreter
      (fun _ action runs spans overridden? handler found =>
        performRestored spans (runs spans) (stay action overridden? handler found))
      (fun _ _ action _ body _ restored => restoredLevels action (placed action body.result) restored)
      fuel spans nested
  exact (performRestored spans runs (stay action overridden? handler found) machine outcome ended).1

/-- Among the operations of the interpreter, in the whole run, each frame that was put on the
stack is taken off once, in the opposite order, and none is missing when its turn comes. -/
theorem framesRestored (handlers : interpreter.HandlersRestore ∨ interpreter.HandlersStay)
    {fuel : Nat} {action : Action} {machine : Machine H} {outcome : Outcome H ActionError Unit}
    (ended : interpreter.runAction fuel action machine = some outcome) :
    outcome.machine.stack.frames = machine.stack.frames ∧
      Nested (fun _ _ _ => True) outcome.events ∧ Heeded outcome.events := by
  have restore : interpreter.HandlersRestore := handlers.elim id restoreOfStay
  have restored := runActionRestored restore fuel interpreter.spans action machine outcome ended
  have nested := runActionNested (P := fun _ _ _ => True) interpreter (fun _ _ _ _ _ _ => trivial)
    fuel interpreter.spans action machine outcome ended
  exact ⟨restored.1, nested, restored.2⟩

end Interpreter

/- A small host to see the statements at work. Its state counts the evaluations; `all` is the
items 1 and 2, and any other expression fails to hold at each third count. -/
namespace Counting

abbrev host : Host where
  State := Nat
  Item := Nat
  Object := Unit
  Trigger := Unit
  Note := Unit
  truth? item := some (item != 0)

def evaluator : Evaluator Nat Nat
  | .items, request, count =>
      (.ok (if request.expression = "all" then [1, 2] else [count % 3]), count + 1)
  | .text, _, count => (.ok none, count + 1)
  | .template, _, count => (.ok "", count + 1)

def container : Container host where
  component := ""
  answer
    | .scope _, count => (none, count)
    | .target _ _ _, count => (none, count)
    | .prefixedId _, count => ("", count)
    | .object _, count => (none, count)
    | .relativeId _ _ _, count => (.ok "", count)
  relative := false

def checkCount (count : Nat) : Program host Unit :=
  if count = 6 then .fail (.failed "too late" none) else .done ()

def watch : Program host Unit := .ask .state fun
  | .ok count => checkCount count
  | .error error => .fail error

def handlerFor (name : Name) : Option (Handler host) :=
  if name.localPart = "block" then some Dispatch.runNested
  else if name.localPart = "watch" then some fun _ => watch
  else none

def action (name : String) (attributes : List (String × String)) (children : List Action) :
    Action where
  name := .unqualified name
  staticId := name
  attributes := attributes.map fun (key, value) => ⟨.unqualified key, value⟩
  namespaces := .empty
  scope := .topLevel
  location? := none
  children

def block : Action := action "block" [] [action "watch" [("iterate", "all"), ("while", "more")] []]

def interpreter : Interpreter host where
  container
  evaluator
  handlerFor
  settings := .standard
  invocation := { action := block, handlerId := "", trigger := (), observer := () }
  spans := []

def machine : Machine host := ⟨(0 : Nat), .ofRoot (.start [(7 : Nat)])⟩

theorem handlerCases {name : Name} {handler : Handler host} (found : handlerFor name = some handler) :
    handler = Dispatch.runNested ∨ handler = fun _ => watch := by
  unfold handlerFor at found
  split at found
  · exact .inl (Option.some.inj found).symm
  · split at found
    · exact .inr (Option.some.inj found).symm
    · cases found

theorem handlersUse {allowed : Call host → Prop} (looks : allowed .state) {name : Name}
    {handler : Handler host} (found : handlerFor name = some handler) (dispatch : Dispatch host) :
    (handler dispatch).Uses allowed := by
  rcases handlerCases found with rfl | rfl
  · exact Program.usesRunAll _
  · refine ⟨looks, fun answer => ?_⟩
    cases answer with
    | error error => trivial
    | ok count =>
      change (checkCount count).Uses _
      unfold checkCount
      split <;> trivial

theorem handlersStay : interpreter.HandlersStay := fun _ _ _ found => handlersUse id found _

end Counting

theorem Interpreter.framesRestoredOnFailure : ∃ outcome,
    Counting.interpreter.runAction 4 Counting.block Counting.machine = some outcome ∧
      outcome.result.toOption = none ∧ outcome.machine.stack.frames = [.start [(7 : Nat)]] ∧
      Nested (fun _ _ _ => True) outcome.events ∧ Heeded outcome.events := by
  have failed : (Counting.interpreter.runAction 4 Counting.block Counting.machine).map
      (fun outcome => outcome.result.toOption) = some none := by decide +kernel
  obtain ⟨outcome, ended, none⟩ := Option.map_eq_some_iff.mp failed
  exact ⟨outcome, ended, none, framesRestored (.inr Counting.handlersStay) ended⟩

end ActionTree

import ActionTree.Proofs.Steps

/-! Quiet steps: they may change the state of the host and add to the journal, but leave
the binding stack alone. All that the interpreter does between stack operations is
quiet, being made of steps that look no further than the current frame, and so is every
answer to a handler that does not ask for a stack operation. -/
namespace ActionTree
open Binding (Stack Spec Frame)
variable {H : Host} {ε : Type}

def Event.Quiet : Event H → Prop
  | .evaluated _ _ _ _ => True
  | .asked _ => True
  | .lookedUp _ _ => True
  | .noted _ => True
  | .pushed _ _ (.error _) _ => True
  | .iterated _ _ (.error _) _ => True
  | .logged entry _ => entry ≠ .rootPopIgnored
  | _ => False

def QuietStep (before : Machine H) (events : List (Event H)) (after : Machine H) : Prop :=
  after.stack = before.stack ∧ ∀ event ∈ events, event.Quiet

theorem quietChained : Chained (QuietStep (H := H)) where
  still machine := ⟨rfl, by simp⟩
  join first second := by
    refine ⟨second.1.trans first.1, fun event member => ?_⟩
    rcases List.mem_append.mp member with early | late
    · exact first.2 event early
    · exact second.2 event late

namespace Act

/-- Made of steps that look at the state and at the current frame alone. -/
inductive Plain : {ε α : Type} → Act H ε α → Prop where
  | pure {ε α : Type} (value : α) : Plain (pure value : Act H ε α)
  | ofExcept {ε α : Type} (result : Except ε α) : Plain (ofExcept result)
  | record {ε : Type} {event : Event H} (quiet : event.Quiet) : Plain (record event : Act H ε Unit)
  | evaluate (evaluator : Evaluator H.State H.Item) (purpose : Purpose) (mode : Mode)
      (request : Request H.Item) : Plain (evaluate evaluator purpose mode request)
  | ask {ε : Type} (container : Container H) (question : Question H) :
      Plain (ask container question : Act H ε question.Answer)
  | state {ε : Type} : Plain (state : Act H ε H.State)
  | setState {ε : Type} (state : H.State) : Plain (setState state : Act H ε Unit)
  | frame {ε : Type} : Plain (frame : Act H ε (Frame H.Item))
  | bind {ε α β : Type} {first : Act H ε α} {next : α → Act H ε β} (head : Plain first)
      (tail : ∀ value, Plain (next value)) : Plain (first >>= next)
  | mapError {ε ε' α : Type} {act : Act H ε α} (plain : Plain act) (change : ε → ε') :
      Plain (act.mapError change)

theorem Plain.quiet {α : Type} {act : Act H ε α} (plain : act.Plain) : act.Keeps QuietStep := by
  induction plain with
  | pure value => exact keepsPure quietChained value
  | ofExcept result => exact keepsOfExcept quietChained result
  | record quiet => exact fun _ => ⟨rfl, by simpa [Act.record] using quiet⟩
  | evaluate evaluator purpose mode request =>
    exact fun _ => ⟨rfl, by simp [Act.evaluate, Event.Quiet]⟩
  | ask container question => exact fun _ => ⟨rfl, by simp [Act.ask, Event.Quiet]⟩
  | state => exact quietChained.still
  | setState state => exact fun _ => ⟨rfl, by simp [Act.setState]⟩
  | frame => exact quietChained.still
  | bind head tail first rest => exact keepsBind quietChained first rest
  | mapError plain change kept => exact keepsMapError kept change

end Act

namespace Binding
variable (evaluator : Evaluator H.State H.Item) (stack : Stack H.Item) (spec : Spec)

theorem plainSelect (modelId? : Option String) (focus : Focus H.Item) (expression : String) :
    (select evaluator stack spec modelId? focus expression).Plain := by
  unfold select
  split
  · exact .mapError (.evaluate ..) _
  · exact .pure _

theorem plainFrameFor : (frameFor evaluator stack spec).Plain := by
  refine .bind ?_ fun grounded => .bind ?_ fun context => .bind ?_ fun focus => .pure _
  · unfold ground
    split
    · exact .pure _
    · exact .bind (.ofExcept _) fun _ => .pure _
  · unfold narrow
    split
    · exact .pure _
    · exact .bind (plainSelect evaluator stack spec _ _ _) fun _ => .pure _
  · unfold settle
    split
    · exact .bind (.ofExcept _) fun _ =>
        .bind (plainSelect evaluator stack spec _ _ _) fun _ => .pure _
    · exact .bind (plainSelect evaluator stack spec _ _ _) fun _ => .pure _
    · exact .pure _

end Binding

namespace Interpreter
variable (interpreter : Interpreter H)

theorem plainEvaluate (purpose : Purpose) (mode : Mode) (action : Action) (focus : Focus H.Item)
    (expression : String) : (interpreter.evaluate purpose mode action focus expression).Plain :=
  .bind .frame fun _ => .mapError (.evaluate ..) _

theorem plainCheckGuard (action : Action) (guard : Guard) (expression : String)
    (item? : Option H.Item) : (interpreter.checkGuard action guard expression item?).Plain := by
  cases item? with
  | none => exact .bind (.record (by simp [logged, Event.Quiet])) fun _ => .pure _
  | some item =>
    refine .bind (interpreter.plainEvaluate .guard .items action _ _) fun items => ?_
    cases (List.head? items).bind H.truth? with
    | none => exact .ofExcept _
    | some value =>
      cases value with
      | true => exact .pure _
      | false => exact .bind (.record (by simp [logged, Event.Quiet])) fun _ => .pure _

theorem plainAdmits (action : Action) (item? : Option H.Item) (guard : Guard) :
    (interpreter.admits action item? guard).Plain := by
  unfold admits
  split
  · exact .pure _
  · exact .bind (interpreter.plainCheckGuard action guard _ item?) fun _ => .pure _

theorem plainFillTemplate (action : Action) (raw? : Option String) :
    (interpreter.fillTemplate action raw?).Plain := by
  unfold fillTemplate
  split
  · exact .pure _
  · split
    · refine .bind .frame fun frame => ?_
      split
      · exact .pure _
      · exact .bind (interpreter.plainEvaluate .template .template action _ _) fun _ => .pure _
    · exact .pure _

theorem plainIndexedId (action : Action) (object : H.Object) (indexes : String) :
    (interpreter.indexedId action object indexes).Plain := by
  unfold indexedId
  split
  · exact .bind (.ask interpreter.container _) fun _ => .ofExcept _
  · exact .bind (.ofExcept _) fun _ => .bind (.ask interpreter.container _) fun _ => .pure _

theorem plainFindObject (action : Action) (targetId : String) :
    (interpreter.findObject action targetId).Plain := by
  refine .bind (.ask interpreter.container _) fun (found : Option H.Object) => ?_
  cases found with
  | none => exact .pure _
  | some object =>
    refine .bind (interpreter.plainFillTemplate action _) fun written? => ?_
    split
    · exact .pure _
    · exact .pure _
    · exact .bind (interpreter.plainIndexedId action _ _) fun _ => .ask interpreter.container _

theorem plainDeferredUpdates (action : Action) : (interpreter.deferredUpdates action).Plain := by
  refine .bind .frame fun frame => ?_
  split
  · exact .pure _
  · exact .bind (interpreter.plainFillTemplate action _) fun _ => .pure _

end Interpreter

def Call.MovesStack : Call H → Prop
  | .push _ => True
  | .pushElement _ => True
  | .pop => True
  | _ => False

/-- Calls whose answer depends on frames below the current one, or changes the frames. -/
def Call.BeyondFrame : Call H → Prop
  | .depth => True
  | .push _ => True
  | .pushElement _ => True
  | .pop => True
  | _ => False

namespace Interpreter

theorem plainAnswer (interpreter : Interpreter H) {call : Call H} (within : ¬ call.BeyondFrame) :
    (interpreter.answer call).Plain := by
  cases call with
  | state => exact .state
  | setState state => exact .setState state
  | items action focus expression => exact interpreter.plainEvaluate _ _ _ _ _
  | text action focus expression =>
    exact .bind (interpreter.plainEvaluate _ _ _ _ _) fun _ => .pure _
  | evaluate mode request => exact .mapError (.evaluate ..) _
  | template action raw? => exact interpreter.plainFillTemplate action raw?
  | guard action guard expression item? => exact interpreter.plainCheckGuard _ _ _ _
  | find action targetId => exact interpreter.plainFindObject action targetId
  | deferredUpdates action => exact interpreter.plainDeferredUpdates action
  | ask question => exact .ask interpreter.container question
  | frame => exact .frame
  | depth => exact absurd trivial within
  | push spec => exact absurd trivial within
  | pushElement index => exact absurd trivial within
  | pop => exact absurd trivial within
  | note note => exact .record trivial

theorem quietAnswer (interpreter : Interpreter H) {call : Call H} (stays : ¬ call.MovesStack) :
    (interpreter.answer call).Keeps QuietStep := by
  by_cases beyond : call.BeyondFrame
  · cases call with
    | depth => exact quietChained.still
    | push spec => exact absurd trivial stays
    | pushElement index => exact absurd trivial stays
    | pop => exact absurd trivial stays
    | _ => exact beyond.elim
  · exact (interpreter.plainAnswer beyond).quiet

end Interpreter
end ActionTree

import ActionTree.Proofs.Footing

/-! A frame that is bound in two stages, the first by the model and the context and the second by
what is bound or selected there. It is the one that a single request with all of it gives, for the
same evaluations in the same order. -/
namespace ActionTree
open Binding (Stack Frame Spec Derivation)
variable {H : Host} {ε α β : Type}

def Event.evaluates : Event H → Bool
  | .evaluated _ _ _ _ => true
  | _ => false

def evaluations (events : List (Event H)) : List (Event H) := events.filter Event.evaluates

namespace Act

def Stackless (act : Act H ε α) : Prop := ∀ machine stack, act { machine with stack } =
  { act machine with machine := { (act machine).machine with stack } }

theorem stacklessBind {first : Act H ε α} {next : α → Act H ε β} (head : first.Stackless)
    (tail : ∀ value, (next value).Stackless) : (first >>= next).Stackless := by
  intro machine stack
  have same := head machine stack
  cases ended : (first machine).result with
  | error error =>
    have ended' : (first { machine with stack }).result = .error error := by rw [same]; exact ended
    rw [bindError ended', bindError ended, same]
  | ok value =>
    have ended' : (first { machine with stack }).result = .ok value := by rw [same]; exact ended
    rw [bindOk ended', bindOk ended, same, tail value]
    rfl

end Act
namespace Binding

def Frame.unmarked {Item : Type} (frame : Frame Item) : Frame Item :=
  { frame with overridden := false }

/-- The first of two stages. No frame depends on the scope of a request. -/
def Spec.grounding (spec : Spec) (scope : Scope) (inner : Bool) : Spec :=
  { spec with bind? := none, select? := none, scope, inner }

def Spec.targeting (spec : Spec) (scope : Scope) (inner : Bool) : Spec :=
  { spec with model? := none, context? := none, scope, inner }

section
variable (evaluator : Evaluator H.State H.Item) (stack : Stack H.Item) (spec : Spec)

theorem selectStackless (modelId? : Option String) (focus : Focus H.Item) (expression : String) :
    (select evaluator stack spec modelId? focus expression).Stackless := by
  unfold select
  split
  · exact fun _ _ => rfl
  · exact fun _ _ => rfl

theorem settleStackless (modelId? : Option String) (context : Focus H.Item) :
    (settle evaluator stack spec modelId? context).Stackless := by
  unfold settle
  split
  · exact Act.stacklessBind (fun _ _ => rfl) fun _ =>
      Act.stacklessBind (selectStackless evaluator stack spec _ _ _) fun _ _ _ => rfl
  · exact Act.stacklessBind (selectStackless evaluator stack spec _ _ _) fun _ _ _ => rfl
  · exact fun _ _ => rfl

end
section
variable {evaluator : Evaluator H.State H.Item} {stack : Stack H.Item} {spec : Spec}
  {scope : Scope} {inner : Bool} {machine between after : Machine H} {events events' : List (Event H)}
  {context : Focus H.Item} {modelId? : Option String} {result : Except BindingError (Focus H.Item)}

theorem frameForRefused {error : BindingError}
    (stepped : contextStep evaluator stack spec machine = ⟨.error error, after, events⟩) :
    frameFor evaluator stack spec machine = ⟨.error error, after, events⟩ := by
  rw [frameForSteps, Act.bindError (congrArg Outcome.result stepped), stepped]

theorem frameForSettled
    (stepped : contextStep evaluator stack spec machine = ⟨.ok (context, modelId?), between, events⟩)
    (settled : settle evaluator stack spec modelId? context between = ⟨result, after, events'⟩) :
    frameFor evaluator stack spec machine =
      ⟨result.map (stack.frameOver spec modelId? context), after, events ++ events'⟩ := by
  have framed := Act.mapEq (stack.frameOver spec modelId? context)
    (settle evaluator stack spec modelId? context) between
  rw [settled] at framed
  rw [frameForSteps, Act.bindBy stepped]
  exact congrArg (Outcome.after · events) framed

theorem frameForGrounding
    (stepped : contextStep evaluator stack spec machine = ⟨.ok (context, modelId?), after, events⟩) :
    frameFor evaluator stack (spec.grounding scope inner) machine =
      ⟨.ok (stack.frameOver spec modelId? context context), after, events⟩ := by
  have same : contextStep evaluator stack (spec.grounding scope inner) machine =
    ⟨.ok (context, modelId?), after, events⟩ := stepped
  have kept : settle evaluator stack (spec.grounding scope inner) modelId? context after =
    ⟨.ok context, after, []⟩ := rfl
  rw [frameForSettled same kept, List.append_nil]
  rfl

theorem frameForTargeting (scope : Scope) (inner : Bool)
    (settled : settle evaluator stack spec modelId? context machine = ⟨result, after, events⟩) :
    let below := stack.push (stack.frameOver spec modelId? context context)
    frameFor evaluator below (spec.targeting scope inner) ⟨machine.state, below⟩ =
      ⟨result.map fun focus => (stack.frameOver spec modelId? context focus).unmarked,
        ⟨after.state, below⟩, events⟩ := by
  intro below
  have framed := Act.mapEq (fun focus => (stack.frameOver spec modelId? context focus).unmarked)
    (settle evaluator stack spec modelId? context) { machine with stack := below }
  rw [settleStackless evaluator stack spec modelId? context machine, settled] at framed
  exact framed

end

/-- The stages come to what the whole comes to, by the same requests with the same answers. -/
structure Staged (whole stages : Outcome H BindingError Unit) : Prop where
  result : stages.result = whole.result
  state : stages.machine.state = whole.machine.state
  requests : evaluations stages.events = evaluations whole.events
  frame : whole.result = .ok () →
    stages.machine.stack.current = whole.machine.stack.current.unmarked
  depth : whole.result = .ok () → stages.machine.stack.depth = whole.machine.stack.depth + 1

theorem pushBy {evaluator : Evaluator H.State H.Item} {spec : Spec} {state : H.State}
    {stack : Stack H.Item} {after : Machine H} {result : Except BindingError (Frame H.Item)}
    {events : List (Event H)}
    (derived : frameFor evaluator stack spec ⟨state, stack⟩ = ⟨result, after, events⟩)
    (caller : Caller) : push evaluator caller spec ⟨state, stack⟩ =
      ⟨result.map fun _ => (), ⟨after.state, stack.after result⟩,
        events ++ [.pushed caller spec result (stack.after result).depth]⟩ := by
  rw [pushEq, derived]

theorem pushStaged (evaluator : Evaluator H.State H.Item) (caller : Caller) (spec : Spec)
    (scope scope' : Scope) (inner inner' : Bool) (machine : Machine H) :
    Staged (push evaluator caller spec machine)
      ((do
        push evaluator caller (spec.grounding scope inner)
        push evaluator caller (spec.targeting scope' inner')) machine) := by
  obtain ⟨state, stack⟩ := machine
  cases stepped : contextStep evaluator stack spec ⟨state, stack⟩ with
  | mk result after events =>
  cases result with
  | error error =>
    have stepped' : contextStep evaluator stack (spec.grounding scope inner) ⟨state, stack⟩ =
      ⟨.error error, after, events⟩ := stepped
    have first := pushBy (frameForRefused stepped') caller
    rw [Act.bindError (congrArg Outcome.result first), first, pushBy (frameForRefused stepped)]
    exact ⟨rfl, rfl, by simp [evaluations, Event.evaluates], nofun, nofun⟩
  | ok found =>
    obtain ⟨context, modelId?⟩ := found
    cases settled : settle evaluator stack spec modelId? context after with
    | mk result last events' =>
    let ground := stack.frameOver spec modelId? context context
    have first : push evaluator caller (spec.grounding scope inner) ⟨state, stack⟩ =
        ⟨.ok (), ⟨after.state, stack.push ground⟩, events ++
          [.pushed caller (spec.grounding scope inner) (.ok ground) (stack.push ground).depth]⟩ :=
      pushBy (frameForGrounding stepped) caller
    have second := pushBy (frameForTargeting scope' inner' settled) caller
    have both : (do
        push evaluator caller (spec.grounding scope inner)
        push evaluator caller (spec.targeting scope' inner') : Act H BindingError Unit)
          ⟨state, stack⟩ = _ :=
      (Act.bindBy first).trans (congrArg (Outcome.after · _) second)
    rw [both, pushBy (frameForSettled stepped settled)]
    cases result with
    | error error =>
      exact ⟨rfl, rfl, by simp [evaluations, Event.evaluates, Outcome.after], nofun, nofun⟩
    | ok focus =>
      refine ⟨rfl, rfl, ?_, fun _ => rfl, fun _ => rfl⟩
      simp [evaluations, Event.evaluates, Outcome.after]

section
variable {stack : Stack H.Item} {spec : Spec} {scope scope' : Scope} {inner inner' : Bool}
  {modelId? : Option String} {focus : Focus H.Item} {result : Except BindingError (Focus H.Item)}
  {events : List (Event H)}

theorem Settling.untargeted
    (settled : Settling stack (spec.grounding scope inner) modelId? focus result events) :
    result = .ok focus ∧ events = [] := by
  cases settled with
  | undeclared present _ => cases present
  | bound present _ _ => cases present
  | selected _ present _ => cases present
  | kept _ _ => exact ⟨rfl, rfl⟩

theorem Narrowing.ungrounded
    (narrowed : Narrowing stack (spec.targeting scope' inner') modelId? focus result events) :
    result = .ok focus ∧ events = [] := by
  cases narrowed with
  | kept _ => exact ⟨rfl, rfl⟩
  | selected present _ => cases present

theorem Narrowing.whole
    (narrowed : Narrowing stack (spec.grounding scope inner) modelId? focus result events) :
    Narrowing stack spec modelId? focus result events := by
  cases narrowed with
  | kept absent => exact .kept absent
  | selected present selection =>
    refine .selected present ?_
    cases selection with
    | skipped outside => exact .skipped outside
    | evaluated inside answer => exact .evaluated inside answer

theorem Selection.below {context : Focus H.Item} {expression : String}
    {result : Except BindingError (List H.Item)}
    (selection : Selection
      (stack.push (stack.frameOver (spec.grounding scope inner) modelId? context context))
      (spec.targeting scope' inner') modelId? focus expression result events) :
    Selection stack spec modelId? focus expression result events := by
  cases selection with
  | skipped outside => exact .skipped outside
  | evaluated inside answer => exact .evaluated inside answer

theorem Settling.below (settled : Settling
      (stack.push (stack.frameOver (spec.grounding scope inner) modelId? focus focus))
      (spec.targeting scope' inner') modelId? focus result events) :
    Settling stack spec modelId? focus result events := by
  cases settled with
  | undeclared present unknown => exact .undeclared present unknown
  | bound present declared selection => exact .bound present declared selection.below
  | selected unbound present selection => exact .selected unbound present selection.below
  | kept unbound absent => exact .kept unbound absent

theorem Derivation.whole {ground target : Frame H.Item} {events events' : List (Event H)}
    (first : Derivation stack (spec.grounding scope inner) (.ok ground) events)
    (second : Derivation (stack.push ground) (spec.targeting scope' inner') (.ok target) events') :
    ∃ whole, Derivation stack spec (.ok whole) (events ++ events') ∧ target = whole.unmarked := by
  cases first with
  | derived grounded narrowed settled =>
    obtain ⟨same, rfl⟩ := settled.untargeted
    cases same
    cases second with
    | derived grounded' narrowed' settled' =>
      cases grounded'
      obtain ⟨same', rfl⟩ := narrowed'.ungrounded
      cases same'
      rw [List.append_nil]
      exact ⟨_, .derived grounded narrowed.whole settled'.below, rfl⟩

end
end Binding
end ActionTree

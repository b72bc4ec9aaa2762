import ActionTree.Proofs.Likeness
import ActionTree.Proofs.Refinement

/-! Runs of trees that are alike, with handlers that do not tell them apart. At each step the two
runs are in the same machine. -/
namespace ActionTree
open Binding (Stack Frame Spec)
variable {H : Host} {ε α β : Type}

theorem Event.Alike.request {event event' : Event H} (alike : event.Alike event') :
    event.request? = event'.request? := by
  cases alike <;> rfl

structure Invocation.Alike (first second : Invocation H) : Prop where
  action : first.action.Alike second.action
  handlerId : first.handlerId = second.handlerId
  trigger : first.trigger = second.trigger
  observer : first.observer = second.observer

structure Dispatch.Alike (first second : Dispatch H) : Prop where
  action : first.action.Alike second.action
  overridden : first.overridden? = second.overridden?
  invocation : first.invocation.Alike second.invocation
  settings : first.settings = second.settings
  component : first.component = second.component

/-- Programs that ask for the same and go on alike. What names an action, or is requested for one,
may name another that resembles it, unless the answer depends on attributes of the action. -/
inductive Program.Alike : Program H α → Program H α → Prop where
  | done (value) : Alike (.done value) (.done value)
  | fail {error error'} (alike : error.Alike error') : Alike (.fail error) (.fail error')
  | ask {call : Call H} {next next'} (rest : ∀ answer, (next answer).Alike (next' answer)) :
      Alike (.ask call next) (.ask call next')
  | items {action action' focus expression next next'} (alike : action.Resembles action')
      (rest : ∀ answer : Except ActionError (List H.Item), (next answer).Alike (next' answer)) :
      Alike (.ask (.items action focus expression) next) (.ask (.items action' focus expression) next')
  | text {action action' focus expression next next'} (alike : action.Resembles action')
      (rest : ∀ answer : Except ActionError String, (next answer).Alike (next' answer)) :
      Alike (.ask (.text action focus expression) next) (.ask (.text action' focus expression) next')
  | template {action action' raw? next next'} (alike : action.Resembles action')
      (rest : ∀ answer : Except ActionError (Option String), (next answer).Alike (next' answer)) :
      Alike (.ask (.template action raw?) next) (.ask (.template action' raw?) next')
  | guard {action action' guard expression item? next next'} (alike : action.Resembles action')
      (rest : ∀ answer : Except ActionError GuardOutcome, (next answer).Alike (next' answer)) :
      Alike (.ask (.guard action guard expression item?) next)
        (.ask (.guard action' guard expression item?) next')
  | push {spec spec' next next'} (alike : spec.Alike spec')
      (rest : ∀ answer : Except ActionError Unit, (next answer).Alike (next' answer)) :
      Alike (.ask (.push spec) next) (.ask (.push spec') next')
  | run {action action' next next'} (alike : action.Alike action')
      (rest : ∀ result result', EndsAlike result result' → (next result).Alike (next' result')) :
      Alike (.run action next) (.run action' next')

/-- Does not look at qualifiers, scopes and attributes. -/
def Handler.Blind (handler : Handler H) : Prop :=
  ∀ dispatch dispatch', dispatch.Alike dispatch' → (handler dispatch).Alike (handler dispatch')

namespace Program

theorem alikeBind {first second : Program H α} {next next' : α → Program H β}
    (head : first.Alike second) (tail : ∀ value, (next value).Alike (next' value)) :
    (first >>= next).Alike (second >>= next') := by
  change (first.bind next).Alike (second.bind next')
  induction head with
  | done value => exact tail value
  | fail alike => exact .fail alike
  | ask rest ih => exact .ask ih
  | items alike rest ih => exact .items alike ih
  | text alike rest ih => exact .text alike ih
  | template alike rest ih => exact .template alike ih
  | guard alike rest ih => exact .guard alike ih
  | push alike rest ih => exact .push alike ih
  | run alike rest ih => exact .run alike ih

theorem runActionAlike {action action' : Action} (alike : action.Alike action') :
    (runAction (H := H) action).Alike (runAction action') := by
  refine .run alike fun result result' ending => ?_
  cases ending with
  | failed error => exact .fail error
  | ended same => exact same ▸ .done _

theorem runAllAlike {actions actions' : List Action} (alike : List.Forall₂ Action.Alike actions actions') :
    (runAll (H := H) actions).Alike (runAll actions') := by
  induction alike with
  | nil => exact .done ()
  | cons head _ ih => exact alikeBind (runActionAlike head) fun _ => ih

end Program

theorem Dispatch.runNestedBlind : Handler.Blind (H := H) Dispatch.runNested :=
  fun _ _ alike => Program.runAllAlike alike.action.children

structure Interpreter.Alike (first second : Interpreter H) : Prop where
  container : first.container = second.container
  evaluator : first.evaluator = second.evaluator
  settings : first.settings = second.settings
  invocation : first.invocation.Alike second.invocation
  spans : List.Forall₂ Span.Alike first.spans second.spans
  handlers : ∀ name name', name.Same name' → first.handlerFor name = second.handlerFor name'
  blind : ∀ name handler, first.handlerFor name = some handler → handler.Blind

theorem Interpreter.Alike.inside {first second : Interpreter H} (alike : first.Alike second)
    {action action' : Action} (resembles : action.Resembles action') (pass? : Option Nat) :
    ({ first with spans := first.spans ++ [⟨action.name, pass?⟩] } : Interpreter H).Alike
      { second with spans := second.spans ++ [⟨action'.name, pass?⟩] } :=
  { alike with spans := List.rel_append alike.spans (.cons ⟨resembles.name, rfl⟩ .nil) }

theorem Binding.pushLike {evaluator evaluator' : Evaluator H.State H.Item}
    (equal : evaluator = evaluator') (caller : Caller) {spec spec' : Spec} (alike : spec.Alike spec') :
    (push evaluator caller spec).Like Eq Eq (push evaluator' caller spec') := by
  intro machine
  rw [← equal, pushEq, pushEq]
  -- The scope of a request is kept for the container and no frame depends on it.
  have same : frameFor evaluator machine.stack spec' = frameFor evaluator machine.stack spec := by
    rw [alike]
    rfl
  rw [same]
  refine ⟨.refl (fun _ => rfl) (fun _ => rfl) _, rfl, ?_⟩
  exact List.rel_append (sameEvents _) (.cons (.pushed alike) .nil)

theorem Binding.popLike {E : ε → ε → Prop} (caller : Caller) {spans spans' : List Span}
    (alike : List.Forall₂ Span.Alike spans spans') :
    (pop caller spans : Act H ε Unit).Like E Eq (pop caller spans') := by
  intro machine
  rw [popEq, popEq]
  refine ⟨.ended rfl, rfl, ?_⟩
  unfold poppings
  split
  · exact .cons (.logged (.same _) alike) (sameEvents _)
  · exact sameEvents _

namespace Interpreter
variable {first second : Interpreter H} (alike : first.Alike second)
include alike

theorem loggedAlike {entry entry' : LogEntry} (same : entry.Alike entry') :
    (first.logged entry).Alike (second.logged entry') := .logged same alike.spans

section
variable {action action' : Action} (resembles : action.Resembles action')
include resembles

theorem sourceIdAlike : first.sourceId action = second.sourceId action' := by
  unfold sourceId
  rw [alike.invocation.handlerId, resembles.staticId]

theorem requestAlike (frame : Frame H.Item) (focus : Focus H.Item) (expression : String) :
    first.request action frame focus expression = second.request action' frame focus expression := by
  unfold request
  rw [sourceIdAlike alike resembles, resembles.namespaces, resembles.location]

theorem evaluateAlike (purpose : Purpose) (mode : Mode) (focus : Focus H.Item) (expression : String) :
    first.evaluate purpose mode action focus expression =
      second.evaluate purpose mode action' focus expression := by
  unfold evaluate
  simp only [requestAlike alike resembles, alike.evaluator]

theorem evaluateTextAlike (focus : Focus H.Item) (expression : String) :
    first.evaluateText action focus expression = second.evaluateText action' focus expression := by
  unfold evaluateText
  rw [evaluateAlike alike resembles]

theorem fillTemplateAlike (raw? : Option String) :
    first.fillTemplate action raw? = second.fillTemplate action' raw? := by
  unfold fillTemplate
  simp only [evaluateAlike alike resembles]

theorem checkGuardLike (guard : Guard) (expression : String) (item? : Option H.Item) :
    (first.checkGuard action guard expression item?).Like Eq Eq
      (second.checkGuard action' guard expression item?) := by
  have skips (reason : SkipReason) :
      (first.logged (.skipped action.name guard reason)).Alike
        (second.logged (.skipped action'.name guard reason)) :=
    loggedAlike alike (.skipped resembles.name)
  cases item? with
  | none =>
    exact Act.likeBind (Act.likeRecord (skips .missingContext))
      fun _ _ _ => Act.likeSame (fun _ => rfl) _
  | some item =>
    simp only [checkGuard, evaluateAlike alike resembles]
    refine Act.likeBind (Act.likeSame (fun _ => rfl) _) ?_
    rintro items _ rfl
    cases (List.head? items).bind H.truth? with
    | none => exact Act.likeSame (fun _ => rfl) _
    | some value =>
      cases value with
      | true => exact Act.likeSame (fun _ => rfl) _
      | false =>
        exact Act.likeBind (Act.likeRecord (skips (.evaluatedFalse expression)))
          fun _ _ _ => Act.likeSame (fun _ => rfl) _

theorem admitsLike (item? : Option H.Item) (guard : Guard) :
    (first.admits action item? guard).Like Eq Eq (second.admits action' item? guard) := by
  unfold admits
  rw [resembles.guard guard]
  cases action'.guard? guard with
  | none => exact Act.likeSame (fun _ => rfl) _
  | some expression =>
    refine Act.likeBind (checkGuardLike alike resembles guard expression item?) ?_
    rintro outcome _ rfl
    exact Act.likeSame (fun _ => rfl) _

theorem targetSpecAlike : (first.targetSpec action).Alike (second.targetSpec action') := by
  unfold Spec.Alike targetSpec Spec.anchored
  rw [sourceIdAlike alike resembles, resembles.namespaces, resembles.location, resembles.ref,
    resembles.bind]

theorem groundSpecAlike : (first.groundSpec action).Alike (second.groundSpec action') := by
  unfold Spec.Alike groundSpec Spec.anchored
  rw [sourceIdAlike alike resembles, resembles.namespaces, resembles.location, resembles.iterate,
    resembles.context, resembles.model]

end

theorem indexedIdAlike (action : Action) (object : H.Object) (indexes : String) :
    first.indexedId action object indexes = second.indexedId action object indexes := by
  unfold indexedId
  rw [alike.container]

theorem findObjectAlike (action : Action) (targetId : String) :
    first.findObject action targetId = second.findObject action targetId := by
  unfold findObject
  rw [sourceIdAlike alike (.refl action), alike.container, alike.settings]
  refine congrArg (Act.bind _) (funext fun found => ?_)
  cases found with
  | none => rfl
  | some object =>
    rw [fillTemplateAlike alike (.refl action)]
    refine congrArg (Act.bind _) (funext fun written? => ?_)
    split
    · rfl
    · rfl
    · rw [indexedIdAlike alike]

theorem deferredUpdatesAlike (action : Action) :
    first.deferredUpdates action = second.deferredUpdates action := by
  simp only [deferredUpdates, fillTemplateAlike alike (.refl action), alike.settings]

theorem pushLike {E : ActionError → ActionError → Prop} (errors : ∀ error, E error error)
    (caller : Caller) {spec spec' : Spec} (same : spec.Alike spec') :
    (Act.mapError .binding (Binding.push first.evaluator caller spec)).Like E Eq
      (Act.mapError .binding (Binding.push second.evaluator caller spec')) := by
  refine Act.likeMapError (Binding.pushLike alike.evaluator caller same) ?_
  rintro error _ rfl
  exact errors (.binding error)

theorem answerLike (call : Call H) : (first.answer call).Like Eq Eq (second.answer call) := by
  cases call with
  | items action focus expression => exact .ofEq (evaluateAlike alike (.refl action) _ _ _ _)
  | text action focus expression => exact .ofEq (evaluateTextAlike alike (.refl action) _ _)
  | evaluate mode request =>
    exact .ofEq (by simp only [answer, alike.evaluator])
  | template action raw? => exact .ofEq (fillTemplateAlike alike (.refl action) raw?)
  | guard action guard expression item? => exact checkGuardLike alike (.refl action) _ _ _
  | find action targetId => exact .ofEq (findObjectAlike alike action targetId)
  | deferredUpdates action => exact .ofEq (deferredUpdatesAlike alike action)
  | ask question => exact .ofEq (congrArg (Act.ask · question) alike.container)
  | push spec => exact pushLike alike (fun _ => rfl) .handler (.refl spec)
  | pop => exact Binding.popLike .handler alike.spans
  | _ => exact .ofEq rfl

end Interpreter
end ActionTree

import ActionTree.Proofs.Telling

/-! Whom each step of the interpreter asks for: the requests that reach the evaluator, told by the
current frame and by what was called for. -/
namespace ActionTree
open Binding (Stack Frame Spec Derivation Selection Narrowing Settling)
variable {H : Host} {ε α β : Type}

/-- Quiet, with requests as described, which may depend on the frame that stays the current one. -/
def Asking (P : Frame H.Item → Purpose → Request H.Item → Prop) (before : Machine H)
    (events : List (Event H)) (after : Machine H) : Prop :=
  QuietStep before events after ∧ ∀ purpose mode request answer,
    .evaluated purpose mode request answer ∈ events → P before.stack.current purpose request

section
variable {P : Frame H.Item → Purpose → Request H.Item → Prop}

theorem askingChained : Chained (Asking P) where
  still machine := ⟨quietChained.still machine, by simp⟩
  join first second := by
    refine ⟨quietChained.join first.1 second.1, fun purpose mode request answer member => ?_⟩
    rcases List.mem_append.mp member with early | late
    · exact first.2 purpose mode request answer early
    · exact first.1.1 ▸ second.2 purpose mode request answer late

theorem Asking.mono {Q : Frame H.Item → Purpose → Request H.Item → Prop} {before after : Machine H}
    {events : List (Event H)} (asking : Asking P before events after)
    (implies : ∀ purpose request, P before.stack.current purpose request →
      Q before.stack.current purpose request) : Asking Q before events after :=
  ⟨asking.1, fun purpose mode request answer member =>
    implies purpose request (asking.2 purpose mode request answer member)⟩

namespace Act

def Silent (act : Act H ε α) : Prop := act.Keeps (Asking fun _ _ _ => False)

theorem asksSilent {act : Act H ε α} (silent : act.Silent) : act.Keeps (Asking P) :=
  fun machine => (silent machine).mono fun _ _ nothing => nothing.elim

theorem silentPure (value : α) : Silent (pure value : Act H ε α) := askingChained.still

theorem silentOfExcept (result : Except ε α) : (ofExcept result : Act H ε α).Silent :=
  askingChained.still

theorem silentAsk (container : Container H) (question : Question H) :
    (ask container question : Act H ε question.Answer).Silent :=
  fun machine => ⟨(Plain.ask container question).quiet machine, by simp [Act.ask]⟩

theorem frameBindEq (next : Frame H.Item → Act H ε α) (machine : Machine H) :
    (frame >>= next) machine = next machine.stack.current machine := rfl

theorem asksFrame {next : Frame H.Item → Act H ε α}
    (asks : ∀ frame, (next frame).Keeps (Asking fun current purpose request =>
      current = frame → P current purpose request)) : (frame >>= next).Keeps (Asking P) := by
  intro machine
  rw [frameBindEq]
  exact (asks machine.stack.current machine).mono fun _ _ asked => asked rfl

end Act
end

/-- The requests that answering a call of a handler gives rise to in a frame, stack operations
apart. -/
inductive Call.Requests (interpreter : Interpreter H) (frame : Frame H.Item) :
    Call H → Purpose → Request H.Item → Prop where
  | items {action focus expression} : Requests interpreter frame (.items action focus expression)
      .handler (interpreter.request action frame focus expression)
  | text {action focus expression} : Requests interpreter frame (.text action focus expression)
      .handler (interpreter.request action frame focus expression)
  | evaluate {mode request} : Requests interpreter frame (.evaluate mode request) .handler request
  | template {action raw} (single : frame.single?.isSome) : Requests interpreter frame
      (.template action (some raw)) .template (interpreter.request action frame frame.focus raw)
  | find {action targetId raw} (single : frame.single?.isSome) : Requests interpreter frame
      (.find action targetId) .template (interpreter.request action frame frame.focus raw)
  | deferredUpdates {action raw} (single : frame.single?.isSome) : Requests interpreter frame
      (.deferredUpdates action) .template (interpreter.request action frame frame.focus raw)
  | guard {action guard expression item} :
      Requests interpreter frame (.guard action guard expression (some item)) .guard
        (interpreter.request action frame ⟨[item], 1⟩ s!"boolean({expression})")

namespace Interpreter
variable (interpreter : Interpreter H)

theorem evaluateAsks (purpose : Purpose) (mode : Mode) (action : Action) (focus : Focus H.Item)
    (expression : String) : (interpreter.evaluate purpose mode action focus expression).Keeps
      (Asking fun frame purpose' request =>
        purpose' = purpose ∧ request = interpreter.request action frame focus expression) := by
  intro machine
  refine ⟨(interpreter.plainEvaluate purpose mode action focus expression).quiet machine, ?_⟩
  rw [evaluateEq]
  rintro _ _ _ _ member
  cases List.mem_singleton.mp member
  exact ⟨rfl, rfl⟩

theorem fillTemplateAsks (action : Action) (raw? : Option String) :
    (interpreter.fillTemplate action raw?).Keeps (Asking fun frame purpose request =>
      purpose = .template ∧ frame.single?.isSome ∧ ∃ raw, raw? = some raw ∧
        request = interpreter.request action frame frame.focus raw) := by
  unfold fillTemplate
  split
  · exact Act.asksSilent (Act.silentPure none)
  · next raw =>
    split
    · refine Act.asksFrame fun frame => ?_
      split
      · exact Act.asksSilent (Act.silentPure none)
      · next single =>
        have asks := interpreter.evaluateAsks .template .template action frame.focus raw
        refine Act.keepsBind askingChained (fun machine => (asks machine).mono ?_)
          fun text => Act.asksSilent (Act.silentPure (some text))
        rintro purpose request ⟨rfl, same⟩ rfl
        exact ⟨rfl, by simpa [Option.isSome_iff_ne_none] using single, raw, rfl, same⟩
    · exact Act.asksSilent (Act.silentPure (some raw))

theorem indexedIdSilent (action : Action) (object : H.Object) (indexes : String) :
    (interpreter.indexedId action object indexes).Silent := by
  unfold indexedId
  split
  · exact Act.keepsBind askingChained (Act.silentAsk interpreter.container _)
      fun result => Act.silentOfExcept result
  · exact Act.keepsBind askingChained (Act.silentOfExcept _) fun indexes =>
      Act.keepsBind askingChained (Act.silentAsk interpreter.container _)
        fun prefixedId => Act.silentPure (EffectiveId.withIndexes prefixedId indexes)

theorem findObjectAsks (action : Action) (targetId : String) :
    (interpreter.findObject action targetId).Keeps
      (Asking fun frame => Call.Requests interpreter frame (.find action targetId)) := by
  refine Act.keepsBind askingChained (Act.asksSilent (Act.silentAsk interpreter.container _))
    fun (found : Option H.Object) => ?_
  cases found with
  | none => exact Act.asksSilent (Act.silentPure none)
  | some object =>
    refine Act.keepsBind askingChained (fun machine =>
      (interpreter.fillTemplateAsks action _ machine).mono ?_) fun written? => ?_
    · rintro purpose request ⟨rfl, single, raw, _, rfl⟩
      exact .find single
    · split
      · exact Act.asksSilent (Act.silentPure _)
      · exact Act.asksSilent (Act.silentPure _)
      · exact Act.keepsBind askingChained (Act.asksSilent (interpreter.indexedIdSilent action _ _))
          fun effectiveId => Act.asksSilent (Act.silentAsk interpreter.container _)

theorem deferredUpdatesAsks (action : Action) : (interpreter.deferredUpdates action).Keeps
    (Asking fun frame => Call.Requests interpreter frame (.deferredUpdates action)) := by
  refine Act.asksFrame fun frame => ?_
  split
  · exact Act.asksSilent (Act.silentPure true)
  · refine Act.keepsBind askingChained (fun machine =>
      (interpreter.fillTemplateAsks action _ machine).mono ?_)
      fun value? => Act.asksSilent (Act.silentPure (decide (value? ≠ some "false")))
    rintro purpose request ⟨rfl, single, raw, _, rfl⟩ _
    exact .deferredUpdates single

theorem checkGuardAsks (action : Action) (guard : Guard) (expression : String)
    (item? : Option H.Item) : (interpreter.checkGuard action guard expression item?).Keeps
      (Asking fun frame => Call.Requests interpreter frame (.guard action guard expression item?)) := by
  intro machine
  refine ⟨(interpreter.plainCheckGuard action guard expression item?).quiet machine, ?_⟩
  cases item? with
  | none =>
    rintro purpose mode request answer member
    cases List.mem_singleton.mp member
  | some item =>
    rw [checkGuardEq]
    rintro purpose mode request answer member
    rcases List.mem_cons.mp member with same | logged
    · cases same
      exact .guard
    · split at logged
      · cases List.mem_singleton.mp logged
      · cases logged

theorem admitsAsks (action : Action) (item? : Option H.Item) (guard : Guard) :
    (interpreter.admits action item? guard).Keeps (Asking fun frame purpose request =>
      ∃ item expression, item? = some item ∧ action.guard? guard = some expression ∧
        purpose = .guard ∧
        request = interpreter.request action frame ⟨[item], 1⟩ s!"boolean({expression})") := by
  unfold admits
  split
  · exact Act.asksSilent (Act.silentPure true)
  · next expression present =>
    refine Act.keepsBind askingChained (fun machine =>
      (interpreter.checkGuardAsks action guard expression item? machine).mono ?_)
      fun outcome => Act.asksSilent (Act.silentPure (decide (outcome = .passed)))
    intro purpose request asked
    cases asked with
    | @guard _ _ _ item => exact ⟨item, expression, rfl, present, rfl, rfl⟩

theorem answerAsks {call : Call H} (stays : ¬ call.MovesStack) : (interpreter.answer call).Keeps
    (Asking fun frame => call.Requests interpreter frame) := by
  have silent (events : ∀ machine purpose mode request answer,
      .evaluated purpose mode request answer ∉ (interpreter.answer call machine).events) :
      (interpreter.answer call).Keeps (Asking fun frame => call.Requests interpreter frame) :=
    fun machine => ⟨interpreter.quietAnswer stays machine, fun purpose mode request answer member =>
      (events machine purpose mode request answer member).elim⟩
  cases call with
  | items action focus expression =>
    intro machine
    refine (interpreter.evaluateAsks .handler .items action focus expression machine).mono ?_
    rintro purpose request ⟨rfl, rfl⟩
    exact .items
  | text action focus expression =>
    refine Act.keepsBind askingChained (fun machine =>
      (interpreter.evaluateAsks .handler .text action focus expression machine).mono ?_)
      fun text? => Act.asksSilent (Act.silentPure (Option.getD text? ""))
    rintro purpose request ⟨rfl, rfl⟩
    exact .text
  | evaluate mode request =>
    refine fun machine => ⟨interpreter.quietAnswer stays machine, ?_⟩
    rintro _ _ _ _ member
    cases List.mem_singleton.mp member
    exact .evaluate
  | template action raw? =>
    intro machine
    refine (interpreter.fillTemplateAsks action raw? machine).mono ?_
    rintro purpose request ⟨rfl, single, raw, rfl, rfl⟩
    exact .template single
  | guard action guard expression item? =>
    exact interpreter.checkGuardAsks action guard expression item?
  | find action targetId => exact interpreter.findObjectAsks action targetId
  | deferredUpdates action => exact interpreter.deferredUpdatesAsks action
  | push spec => exact (stays trivial).elim
  | pushElement index => exact (stays trivial).elim
  | pop => exact (stays trivial).elim
  | _ => exact silent (by simp [answer, Act.state, Act.setState, Act.ask, Act.frame, Act.record])

end Interpreter

namespace Binding
variable {stack : Stack H.Item} {spec : Spec}

/-- A frame is looked for where its model is in effect already. -/
def Spec.modelOver {Item : Type} (spec : Spec) (frame : Frame Item) : Option String :=
  spec.model?.or frame.modelId?

theorem groundModel {Item : Type} {stack : Stack Item} {spec : Spec} {base : Focus Item}
    {modelId? : Option String} (grounded : stack.groundOf spec = .ok (base, modelId?)) :
    modelId? = spec.modelOver stack.current := by
  unfold Stack.groundOf at grounded
  unfold Spec.modelOver
  cases present : spec.model? with
  | none =>
    rw [present] at grounded
    cases grounded
    rfl
  | some id =>
    rw [present] at grounded
    cases known : stack.modelRoot id with
    | error error => simp [known, Except.map] at grounded
    | ok items =>
      simp only [known, Except.map, Except.ok.injEq, Prod.mk.injEq] at grounded
      simp [← grounded.2]

def Spec.Requests (spec : Spec) (stack : Stack H.Item) (events : List (Event H)) : Prop :=
  ∀ event ∈ events, ∃ focus expression answer, focus.InRange ∧ event = .evaluated .binding .items
    (spec.request stack (spec.modelOver stack.current) focus expression) answer

theorem Selection.requests {modelId? : Option String} {focus : Focus H.Item} {expression : String}
    {result : Except BindingError (List H.Item)} {events : List (Event H)}
    (selection : Selection stack spec modelId? focus expression result events)
    (model : modelId? = spec.modelOver stack.current) : spec.Requests stack events := by
  subst model
  cases selection with
  | skipped outside => exact fun event member => nomatch member
  | evaluated inside answer =>
    exact fun event member => ⟨focus, expression, answer, inside, List.mem_singleton.mp member⟩

theorem Narrowing.requests {modelId? : Option String} {base : Focus H.Item}
    {result : Except BindingError (Focus H.Item)} {events : List (Event H)}
    (narrowed : Narrowing stack spec modelId? base result events)
    (model : modelId? = spec.modelOver stack.current) : spec.Requests stack events := by
  cases narrowed with
  | kept absent => exact fun event member => nomatch member
  | selected present selection => exact selection.requests model

theorem Settling.requests {modelId? : Option String} {context : Focus H.Item}
    {result : Except BindingError (Focus H.Item)} {events : List (Event H)}
    (settled : Settling stack spec modelId? context result events)
    (model : modelId? = spec.modelOver stack.current) : spec.Requests stack events := by
  cases settled with
  | undeclared present unknown => exact fun event member => nomatch member
  | bound present declared selection => exact selection.requests model
  | selected unbound present selection => exact selection.requests model
  | kept unbound absent => exact fun event member => nomatch member

theorem Derivation.requests {result : Except BindingError (Frame H.Item)} {events : List (Event H)}
    (derivation : Derivation stack spec result events) : spec.Requests stack events := by
  cases derivation with
  | ungrounded unknown => exact fun event member => nomatch member
  | unnarrowed grounded narrowed => exact narrowed.requests (groundModel grounded)
  | unsettled grounded narrowed settled =>
    exact fun event member => (List.mem_append.mp member).elim
      (narrowed.requests (groundModel grounded) event) (settled.requests (groundModel grounded) event)
  | derived grounded narrowed settled =>
    exact fun event member => (List.mem_append.mp member).elim
      (narrowed.requests (groundModel grounded) event) (settled.requests (groundModel grounded) event)

/-- The names in scope in a new frame are those of the frame below, under the model asked for. -/
theorem Derivation.scope {frame : Frame H.Item} {events : List (Event H)}
    (derivation : Derivation stack spec (.ok frame) events) :
    frame.variables = stack.current.variables ∧ frame.modelId? = spec.modelOver stack.current := by
  cases derivation with
  | derived grounded narrowed settled => exact ⟨rfl, groundModel grounded⟩

end Binding
end ActionTree

import ActionTree.Proofs.Blindness

/-! Qualifiers make no difference. Neither do scopes, nor attributes that nothing asks for, those
included that only look like the ones that rule an action. -/
namespace ActionTree
open Binding (Stack Frame Spec)
variable {H : Host} {ε α β : Type}

namespace Registry

def ofList (registrations : List (Name × α)) : Registry α :=
  registrations.foldl (fun registry one => registry.register one.1 one.2) .empty

theorem registerSame (registry : Registry α) {name name' : Name} (same : name.Same name') (value : α) :
    registry.register name value = registry.register name' value := by
  have key : name.expanded = name'.expanded := same
  simp only [register, key]

theorem lookupSame (registry : Registry α) {name name' : Name} (same : name.Same name') :
    registry.lookup? name = registry.lookup? name' :=
  congrArg (valueAt? registry.entries) same

theorem ofListSame {registrations registrations' : List (Name × α)}
    (same : List.Forall₂ (fun one other => one.1.Same other.1 ∧ one.2 = other.2) registrations
      registrations') : ofList registrations = ofList registrations' := by
  unfold ofList
  generalize empty = registry
  induction same generalizing registry with
  | nil => rfl
  | @cons one other _ _ here _ ih =>
    rw [List.foldl_cons, List.foldl_cons, registerSame registry here.1, here.2]
    exact ih _

theorem lookupFolded (registry : Registry α) {registrations : List (Name × α)} {name : Name} {value : α}
    (found : (registrations.foldl (fun registry one => registry.register one.1 one.2) registry).lookup?
      name = some value) :
    registry.lookup? name = some value ∨ ∃ one ∈ registrations, one.2 = value := by
  induction registrations generalizing registry with
  | nil => exact .inl found
  | cons one rest ih =>
    rcases ih _ found with early | ⟨other, member, same⟩
    · rw [lookupRegister] at early
      split at early
      · exact .inr ⟨one, List.mem_cons_self, Option.some.inj early⟩
      · exact .inl early
    · exact .inr ⟨other, List.mem_cons_of_mem _ member, same⟩

theorem lookupOfList {registrations : List (Name × α)} {name : Name} {value : α}
    (found : (ofList registrations).lookup? name = some value) :
    ∃ one ∈ registrations, one.2 = value :=
  (lookupFolded .empty found).resolve_left nofun

end Registry

def PlacedAlike (first second : Interpreter.PlacedError) : Prop :=
  first.1 = second.1 ∧ first.2.Alike second.2

namespace Interpreter
variable {first second : Interpreter H} {action action' : Action}

theorem answeredLike {E : ε → ε → Prop} {V : α → α → Prop} {act act' : Act H ActionError β}
    {next next' : Except ActionError β → Watch H ε α} (answers : act.Like Eq Eq act')
    (rest : ∀ answer, (next answer).Like E V (next' answer)) :
    ((Watch.ofAct act).attempt >>= next).Like E V ((Watch.ofAct act').attempt >>= next') :=
  Watch.likeBind (Watch.likeAttempt (Watch.likeOfAct answers)) fun answer _ ending =>
    ending.eq ▸ rest answer

section
variable (alike : first.Alike second)
include alike

theorem performLike {run run' : Action → Watch H ActionError Unit}
    (runs : ∀ {action action'}, action.Alike action' →
      (run action).Like ActionError.Alike Eq (run' action'))
    {program program' : Program H α} (same : program.Alike program') :
    (first.perform run program).Like ActionError.Alike Eq
      (second.perform run' program') := by
  -- On the two programs. Answers are the same on both sides, and results of runs only alike.
  induction same with
  | done value => exact Watch.likePure rfl
  | fail error => exact Watch.likeFail error
  | ask rest ih => exact answeredLike (answerLike alike _) ih
  | items same rest ih => exact answeredLike (.ofEq (evaluateAlike alike same _ _ _ _)) ih
  | text same rest ih => exact answeredLike (.ofEq (evaluateTextAlike alike same _ _)) ih
  | template same rest ih => exact answeredLike (.ofEq (fillTemplateAlike alike same _)) ih
  | guard same rest ih => exact answeredLike (checkGuardLike alike same _ _ _) ih
  | push same rest ih => exact answeredLike (pushLike alike (fun _ => rfl) .handler same) ih
  | run same rest ih => exact Watch.likeBind (Watch.likeAttempt (runs same)) ih

theorem underLike {E : ε → ε → Prop} {V : α → α → Prop} {enter enter' : Act H ε Unit}
    {body body' : Watch H ε α} (entered : enter.Like E Eq enter') (inside : body.Like E V body') :
    (first.under enter body).Like E V (second.under enter' body') :=
  Watch.likeBind (Watch.likeOfAct entered) fun _ _ _ =>
    Watch.likeEnsuring inside fun _ _ _ => Binding.popLike .interpreter alike.spans

end

section
variable {run : Interpreter H → Action → Watch H ActionError Unit}
  (runs : ∀ {first second action action'}, first.Alike second → action.Alike action' →
    (run first action).Like ActionError.Alike Eq (run second action'))
  (alike : first.Alike second) (same : action.Alike action')
include runs alike same

theorem handleLike {handler : Handler H} (blind : handler.Blind) (overridden? : Option H.Item) :
    (handle run first action handler overridden?).Like ActionError.Alike Eq
      (handle run second action' handler overridden?) := by
  have dispatched : (first.dispatch action overridden?).Alike (second.dispatch action' overridden?) :=
    ⟨same, rfl, alike.invocation, alike.settings, congrArg Container.component alike.container⟩
  refine Watch.likeBind (Watch.likeOfAct (Act.likeSame .same Act.frame)) ?_
  rintro frame _ rfl
  refine Watch.likeBind (Watch.likeOfAct (Act.likeRecord (.dispatched same))) fun _ _ _ => ?_
  exact Watch.likeEnsuring (performLike alike (runs alike) (blind _ _ dispatched))
    fun _ _ ending => Act.likeRecord (.returned same ending)

theorem executeLike (overridden? : Option H.Item) :
    (execute run first action overridden?).Like ActionError.Alike Eq
      (execute run second action' overridden?) := by
  have handler? := alike.handlers action.name action'.name same.resembles.name
  have logs (entry : LogEntry) := Watch.likeOfAct (Act.likeRecord (E := ActionError.Alike)
    (loggedAlike alike (.same entry)))
  unfold execute
  rw [← handler?]
  refine Watch.likeBind (logs .executing) fun _ _ _ => ?_
  refine Watch.likeBind (Watch.likeOfAct (Act.likeRecord (.lookedUp same.resembles.name))) fun _ _ _ => ?_
  cases found : first.handlerFor action.name with
  | none => exact Watch.likeFail (.unknownAction same.resembles.name)
  | some handler =>
    have pushed := pushLike alike ActionError.Alike.same .interpreter (targetSpecAlike alike same.resembles)
    have handled := handleLike runs alike same (alike.blind _ _ found) overridden?
    exact Watch.likeBind (underLike alike pushed handled) fun _ _ _ => logs .done

theorem runPassLike (item? overridden? : Option H.Item) (pass? : Option Nat) :
    (runPass run first action item? overridden? pass?).Like ActionError.Alike Eq
      (runPass run second action' item? overridden? pass?) := by
  have admits (guard : Guard) := Watch.likeOfAct
    ((admitsLike alike same.resembles item? guard).weaken (E := ActionError.Alike) .same)
  have inside := alike.inside same.resembles pass?
  refine Watch.likeBind (admits .onlyIf) ?_
  rintro admitted _ rfl
  split
  · refine Watch.likeBind (admits .asLongAs) ?_
    rintro admitted _ rfl
    split
    · exact Watch.likeBind (executeLike runs inside same overridden?)
        fun _ _ _ => Watch.likePure rfl
    · exact Watch.likePure rfl
  · exact Watch.likePure rfl

theorem runPassesLike (item? overridden? : Option H.Item) (fuel pass : Nat) :
    (runPasses run first action item? overridden? fuel pass).Like PlacedAlike Eq
      (runPasses run second action' item? overridden? fuel pass) := by
  induction fuel generalizing pass with
  | zero => exact Watch.likeOutOfFuel
  | succ fuel ih =>
    unfold runPasses
    rw [same.resembles.guard .asLongAs]
    refine Watch.likeBind (Watch.likeMapError (runPassLike runs alike same item? overridden? _)
      fun _ _ error => ⟨rfl, error⟩) ?_
    rintro executed _ rfl
    split
    · exact ih (pass + 1)
    · exact Watch.likePure rfl

theorem runElementsLike (fuel : Nat) (elements : List H.Item) (index : Nat) :
    (runElements run first action fuel elements index).Like PlacedAlike Eq
      (runElements run second action' fuel elements index) := by
  induction elements generalizing index with
  | nil => exact Watch.likePure rfl
  | cons element rest ih =>
    have turn := underLike alike
      (Act.likeSame (fun error => ⟨rfl, .same _⟩) ((Binding.pushElement .interpreter index).mapError
        fun error => inPass none (.binding error)))
      (runPassesLike runs alike same (some element) (some element) fuel 1)
    refine Watch.likeBind (Watch.likeMapError turn ?_) fun _ _ _ => ih (index + 1)
    rintro ⟨position, error⟩ ⟨_, error'⟩ ⟨rfl, cause⟩
    exact ⟨rfl, cause⟩

theorem runBodyLike (fuel : Nat) :
    (runBody run first action fuel).Like PlacedAlike Eq
      (runBody run second action' fuel) := by
  unfold runBody runGrounded
  rw [same.resembles.iterate]
  refine underLike alike ?_ (Watch.likeBind (Watch.likeOfAct (Act.likeSame ?_ Act.frame)) ?_)
  · refine Act.likeMapError (Binding.pushLike alike.evaluator .interpreter
      (groundSpecAlike alike same.resembles)) ?_
    rintro error _ rfl
    exact ⟨rfl, .same _⟩
  · exact fun _ => ⟨rfl, .same _⟩
  · rintro frame _ rfl
    split
    · exact runElementsLike runs alike same fuel frame.focus.items 1
    · exact runPassesLike runs alike same _ _ fuel 1

end

theorem runLike (fuel : Nat) (alike : first.Alike second) (same : action.Alike action') :
    (runWatched fuel first action).Like ActionError.Alike Eq (runWatched fuel second action') := by
  -- On the fuel, for trees that handlers re-enter inside the spans of their pass.
  induction fuel generalizing first second action action' with
  | zero => exact Watch.likeOutOfFuel
  | succ fuel ih =>
    refine Watch.likeBind (Watch.likeOfAct (Act.likeRecord (.entered same))) fun _ _ _ => ?_
    refine Watch.likeEnsuring (Watch.likeMapError (runBodyLike ih alike same (fuel + 1)) ?_)
      fun _ _ ending => Act.likeRecord (.left same ending)
    rintro ⟨position, error⟩ ⟨_, error'⟩ ⟨rfl, cause⟩
    exact cause.within same.resembles position

/-- The handler that an event passes on to, and the items it is given. -/
def execution? (interpreter : Interpreter H) :
    Event H → Option (Option (Handler H) × Option H.Item × Frame H.Item)
  | .dispatched action overridden? frame => some (interpreter.handlerFor action.name, overridden?, frame)
  | _ => none

theorem executionAlike (alike : first.Alike second) {event event' : Event H} (same : event.Alike event') :
    first.execution? event = second.execution? event' := by
  cases same with
  | same =>
    cases event with
    | dispatched action overridden? frame =>
      have handler? := alike.handlers action.name action.name rfl
      simp [execution?, handler?]
    | _ => rfl
  | dispatched same =>
    have handler? := alike.handlers _ _ same.resembles.name
    simp [execution?, handler?]
  | _ => rfl

def serving (interpreter : Interpreter H) (registrations : List (Name × Handler H))
    (invocation : Invocation H) : Interpreter H :=
  { interpreter with handlerFor := (Registry.ofList registrations).lookup?, invocation }

theorem servingAlike (interpreter : Interpreter H) {registrations registrations' : List (Name × Handler H)}
    (registered : List.Forall₂ (fun one other => one.1.Same other.1 ∧ one.2 = other.2) registrations
      registrations') (blind : ∀ one ∈ registrations, one.2.Blind)
    {invocation invocation' : Invocation H} (invoked : invocation.Alike invocation') :
    (interpreter.serving registrations invocation).Alike
      (interpreter.serving registrations' invocation') where
  container := rfl
  evaluator := rfl
  settings := rfl
  invocation := invoked
  spans := List.forall₂_same.mpr fun _ _ => ⟨rfl, rfl⟩
  handlers _ _ same := by
    change (Registry.ofList registrations).lookup? _ = (Registry.ofList registrations').lookup? _
    rw [Registry.ofListSame registered, Registry.lookupSame _ same]
  blind name handler found := by
    obtain ⟨one, member, rfl⟩ := Registry.lookupOfList found
    exact blind one member

/-- Runs of two trees, also ones that go on, that differ only in what the handlers do not look at. -/
theorem qualifiersIgnored (interpreter : Interpreter H)
    {registrations registrations' : List (Name × Handler H)}
    (registered : List.Forall₂ (fun one other => one.1.Same other.1 ∧ one.2 = other.2) registrations
      registrations') (blind : ∀ one ∈ registrations, one.2.Blind)
    {invocation invocation' : Invocation H} (invoked : invocation.Alike invocation')
    (same : action.Alike action') (fuel : Nat) (machine : Machine H) :
    let first := interpreter.serving registrations invocation
    let second := interpreter.serving registrations' invocation'
    let progress := runWatched fuel first action machine
    let progress' := runWatched fuel second action' machine
    runAction fuel first action machine = progress.outcome? ∧
      runAction fuel second action' machine = progress'.outcome? ∧
      progress.events.filterMap Event.request? = progress'.events.filterMap Event.request? ∧
      progress.events.filterMap first.execution? = progress'.events.filterMap second.execution? ∧
      Option.Rel (fun ended ended' => EndsAlike ended.1 ended'.1 ∧ ended.2 = ended'.2)
        progress.ended? progress'.ended? := by
  intro first second progress progress'
  have alike : first.Alike second := servingAlike interpreter registered blind invoked
  obtain ⟨ends, events⟩ := runLike fuel alike same machine
  refine ⟨runSeen fuel first action machine, runSeen fuel second action' machine, ?_, ?_, ends⟩
  · exact filterMapAlike (fun _ _ => Event.Alike.request) events
  · exact filterMapAlike (fun _ _ => executionAlike alike) events

end Interpreter

namespace Counting

def registrations : List (Name × Handler host) :=
  [(.unqualified "block", Dispatch.runNested), (.unqualified "watch", fun _ => watch)]

def qualify (qualifier : String) (name : Name) : Name := { name with qualifier? := some qualifier }

def qualifiedRegistrations : List (Name × Handler host) :=
  registrations.map fun one => (qualify "a" one.1, one.2)

/-- The same but for what nothing looks at, with attributes that only look like a condition. -/
def dress (qualifier : String) (action : Action) : Action := { action with
  name := qualify qualifier action.name
  attributes := ⟨.inNamespace "urn:other" "o" "if", "never"⟩ :: action.attributes
  scope := ⟨"part"⟩ }

def dressed : Action := dress "q" (action "block" [] [dress "r" (action "watch"
  [("while", "more"), ("label", "loop"), ("iterate", "all"), ("while", "never")] [])])

theorem dressedAlike : block.Alike dressed :=
  .alike ⟨rfl, rfl, rfl, rfl, by decide⟩ (.cons (.alike ⟨rfl, rfl, rfl, rfl, by decide⟩ .nil) .nil)

theorem watchBlind : Handler.Blind (H := host) fun _ => watch := by
  refine fun _ _ _ => .ask fun answer => ?_
  cases answer with
  | error error => exact .fail (.same error)
  | ok count =>
    change (checkCount count).Alike (checkCount count)
    unfold checkCount
    split
    · exact .fail (.same _)
    · exact .done ()

def served : Interpreter host := interpreter.serving registrations interpreter.invocation

def dressedServed : Interpreter host :=
  interpreter.serving qualifiedRegistrations { interpreter.invocation with action := dressed }

theorem registrationsBlind : ∀ one ∈ registrations, one.2.Blind := by
  intro one member
  rcases List.mem_cons.mp member with rfl | later
  · exact Dispatch.runNestedBlind
  · cases List.mem_singleton.mp later
    exact watchBlind

def names : Except ActionError Unit → List String
  | .ok () => []
  | .error error => error.trace

end Counting

theorem Interpreter.qualifiersIgnoredWhenDressed : ∃ outcome outcome',
    Counting.served.runAction 4 Counting.block Counting.machine = some outcome ∧
      Counting.dressedServed.runAction 4 Counting.dressed Counting.machine = some outcome' ∧
      Counting.names outcome.result = ["block", "watch"] ∧
      Counting.names outcome'.result = ["q:block", "r:watch"] ∧
      outcome.events.filterMap Event.request? = outcome'.events.filterMap Event.request? ∧
      EndsAlike outcome.result outcome'.result ∧ outcome.machine = outcome'.machine := by
  have plain : (Counting.served.runAction 4 Counting.block Counting.machine).map
      (fun outcome => Counting.names outcome.result) = some ["block", "watch"] := by decide +kernel
  have qualified : (Counting.dressedServed.runAction 4 Counting.dressed Counting.machine).map
      (fun outcome => Counting.names outcome.result) = some ["q:block", "r:watch"] := by decide +kernel
  obtain ⟨outcome, ended, named⟩ := Option.map_eq_some_iff.mp plain
  obtain ⟨outcome', ended', named'⟩ := Option.map_eq_some_iff.mp qualified
  have registered : List.Forall₂ (fun one other : Name × Handler Counting.host =>
      one.1.Same other.1 ∧ one.2 = other.2) Counting.registrations Counting.qualifiedRegistrations :=
    .cons ⟨rfl, rfl⟩ (.cons ⟨rfl, rfl⟩ .nil)
  have invoked : Counting.interpreter.invocation.Alike
      { Counting.interpreter.invocation with action := Counting.dressed } :=
    ⟨Counting.dressedAlike, rfl, rfl, rfl⟩
  obtain ⟨seen, seen', requests, _, ends⟩ := qualifiersIgnored Counting.interpreter registered
    Counting.registrationsBlind invoked Counting.dressedAlike 4 Counting.machine
  have finished := seen.symm.trans ended
  have finished' := seen'.symm.trans ended'
  rw [Progress.outcomeEvents finished, Progress.outcomeEvents finished'] at requests
  rw [Progress.outcomeEnded finished, Progress.outcomeEnded finished'] at ends
  cases ends with
  | some alike =>
    exact ⟨outcome, outcome', ended, ended', named, named', requests, alike.1, alike.2⟩

end ActionTree

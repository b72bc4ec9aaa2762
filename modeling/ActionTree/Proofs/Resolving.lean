import ActionTree.Action.Builder
import ActionTree.Proofs.Indexes
import ActionTree.Proofs.Telling

/-! Objects by their ids. A target is looked up first, repeat indexes of the action count only if
it was found, and they lead to an id that has all of them. -/
namespace ActionTree
variable {H : Host}

namespace Interpreter

section
variable (interpreter : Interpreter H) (action : Action)

def targetOf (targetId : String) : Question H := .target (interpreter.sourceId action) targetId none

def indexesOf? : Option String := action.attribute? (.named interpreter.settings.repeatIndexes)

/-- What an attribute that may be a template comes to. -/
inductive Filled (raw? : Option String) (machine : Machine H) :
    Outcome H ActionError (Option String) → Prop where
  | absent (absent : raw? = none) : Filled raw? machine ⟨.ok none, machine, []⟩
  | plain {raw} (present : raw? = some raw) (plain : '{' ∉ raw.toList) :
      Filled raw? machine ⟨.ok (some raw), machine, []⟩
  | nowhere {raw} (present : raw? = some raw) (template : '{' ∈ raw.toList)
      (nothing : machine.stack.current.single? = none) : Filled raw? machine ⟨.ok none, machine, []⟩
  | evaluated {raw item request answer state} (present : raw? = some raw)
      (template : '{' ∈ raw.toList) (single : machine.stack.current.single? = some item)
      (same : request = interpreter.request action machine.stack.current machine.stack.current.focus raw)
      (answered : interpreter.evaluator .template request machine.state = (answer, state)) :
      Filled raw? machine ⟨(answer.mapError .evaluation).map some, { machine with state },
        [.evaluated .template .template request answer]⟩

/-- Where an object is that was found, by what is written for its repeat indexes. They are
absolute, and the blanks around them do not count. -/
inductive Reached (object : H.Object) (written? : Option String) (machine : Machine H) :
    Outcome H ActionError (Option H.Object) → Prop where
  | here (blank : ∀ written, written? = some written → ∀ c ∈ written.toList, Text.isBlank c) :
      Reached object written? machine ⟨.ok (some object), machine, []⟩
  | malformed {written text before word after} (present : written? = some written)
      (trimmed : text = Text.trim written.toList) (split : Text.words text = before ++ word :: after)
      (sound : ∀ earlier ∈ before, (RepeatIndex.ofWord? earlier).isSome)
      (bad : RepeatIndex.ofWord? word = none) :
      Reached object written? machine
        ⟨.error (.repeatIndex ⟨String.ofList text, String.ofList word⟩), machine, []⟩
  | indexed {written text indexes} {prefixedId effectiveId : String} {found? : Option H.Object}
      {state state'} (present : written? = some written) (trimmed : text = Text.trim written.toList)
      (parsed : RepeatIndex.parse (String.ofList text) = .ok indexes) (some : indexes ≠ [])
      (positive : ∀ index ∈ indexes, 0 < index)
      (named : interpreter.container.answer (.prefixedId object) machine.state = (prefixedId, state))
      (same : effectiveId = prefixedId ++ "⊙" ++ "-".intercalate (indexes.map Nat.repr))
      (answered : interpreter.container.answer (.object effectiveId) state = (found?, state')) :
      Reached object written? machine ⟨.ok found?, { machine with state := state' },
        [.asked (.prefixedId object), .asked (.object effectiveId)]⟩

/-- What a target comes to. Nothing is evaluated for one that is not found. -/
inductive Resolved (targetId : String) (machine : Machine H) :
    Outcome H ActionError (Option H.Object) → Prop where
  | unknown {state} (unknown : interpreter.container.answer
        (interpreter.targetOf action targetId) machine.state = (none, state)) :
      Resolved targetId machine
        ⟨.ok none, { machine with state }, [.asked (interpreter.targetOf action targetId)]⟩
  | unfilled {object state error after events} (known : interpreter.container.answer
        (interpreter.targetOf action targetId) machine.state = (some object, state))
      (filled : Filled interpreter action (interpreter.indexesOf? action) { machine with state }
        ⟨.error error, after, events⟩) :
      Resolved targetId machine
        ⟨.error error, after, .asked (interpreter.targetOf action targetId) :: events⟩
  | found {object state written? between events outcome} (known : interpreter.container.answer
        (interpreter.targetOf action targetId) machine.state = (some object, state))
      (filled : Filled interpreter action (interpreter.indexesOf? action) { machine with state }
        ⟨.ok written?, between, events⟩)
      (reached : Reached interpreter object written? between outcome) :
      Resolved targetId machine ⟨outcome.result, outcome.machine,
        .asked (interpreter.targetOf action targetId) :: (events ++ outcome.events)⟩

end
section
variable {interpreter : Interpreter H} {action : Action} {machine : Machine H}

theorem fillTemplateEq (raw : String) : interpreter.fillTemplate action (some raw) machine =
    if '{' ∈ raw.toList then
      if machine.stack.current.single?.isNone then ⟨.ok none, machine, []⟩
      else
        let request :=
          interpreter.request action machine.stack.current machine.stack.current.focus raw
        let answer := interpreter.evaluator .template request machine.state
        ⟨(answer.1.mapError .evaluation).map some, { machine with state := answer.2 },
          [.evaluated .template .template request answer.1]⟩
    else ⟨.ok (some raw), machine, []⟩ := by
  have same : mayBeTemplate raw = true ↔ '{' ∈ raw.toList := by simp [mayBeTemplate]
  simp only [fillTemplate, same]
  split
  · change Act.bind Act.frame _ machine = _
    simp only [Act.bind, Act.frame]
    split
    · rfl
    · have ran := evaluateEq interpreter .template .template action machine.stack.current.focus raw
        machine
      cases answered : (interpreter.evaluator .template (interpreter.request action
          machine.stack.current machine.stack.current.focus raw) machine.state).1 with
      | error error =>
        simp only [answered] at ran
        rw [Act.bindStops ran]
        rfl
      | ok text =>
        simp only [answered] at ran
        rw [Act.bindBy ran]
        rfl
  · rfl

theorem filledIff {raw? : Option String} {outcome : Outcome H ActionError (Option String)} :
    Filled interpreter action raw? machine outcome ↔
      interpreter.fillTemplate action raw? machine = outcome := by
  constructor
  · intro filled
    cases filled with
    | absent absent =>
      subst absent
      rfl
    | plain present plain =>
      subst present
      rw [fillTemplateEq, if_neg plain]
    | nowhere present template nothing =>
      subst present
      rw [fillTemplateEq, if_pos template, if_pos (by simp [nothing])]
    | evaluated present template single same answered =>
      subst present same
      rw [fillTemplateEq, if_pos template, if_neg (by simp [single])]
      simp only [answered]
  · rintro rfl
    cases raw? with
    | none => exact .absent rfl
    | some raw =>
      rw [fillTemplateEq]
      split
      · next template =>
        cases single : machine.stack.current.single? with
        | none => exact .nowhere rfl template single
        | some item => exact .evaluated rfl template single rfl rfl
      · next plain => exact .plain rfl plain

/-- The rest of the search for a target that was found. -/
def locate (interpreter : Interpreter H) (action : Action) (object : H.Object)
    (written? : Option String) : Act H ActionError (Option H.Object) :=
  match written?.map fun written => String.ofList (Text.trim written.toList) with
  | none | some "" => return some object
  | some indexes => do
      let effectiveId ← interpreter.indexedId action object indexes
      Act.ask interpreter.container (.object effectiveId)

def seek (interpreter : Interpreter H) (action : Action) (targetId : String) :
    Act H ActionError (Option H.Object) :=
  Act.ask interpreter.container (interpreter.targetOf action targetId)

def follow (interpreter : Interpreter H) (action : Action) :
    Option H.Object → Act H ActionError (Option H.Object)
  | none => return none
  | some object => do
      let written? ← interpreter.fillTemplate action (interpreter.indexesOf? action)
      interpreter.locate action object written?

theorem findObjectEq (targetId : String) : interpreter.findObject action targetId =
    interpreter.seek action targetId >>= interpreter.follow action := by
  unfold findObject
  refine congrArg (Act.bind _) (funext fun found => ?_)
  cases found <;> rfl

theorem seekBy {targetId : String} {found? : Option H.Object} {state : H.State}
    (answered : interpreter.container.answer (interpreter.targetOf action targetId) machine.state =
      (found?, state)) :
    interpreter.seek action targetId machine =
      ⟨.ok found?, { machine with state }, [.asked (interpreter.targetOf action targetId)]⟩ :=
  Act.askBy answered

theorem locateBlank (object : H.Object) {written? : Option String}
    (blank : ∀ written, written? = some written → ∀ c ∈ written.toList, Text.isBlank c) :
    interpreter.locate action object written? = return some object := by
  cases written? with
  | none => rfl
  | some written =>
    simp only [locate, Option.map_some, Text.trimEmpty.mpr (blank written rfl)]

theorem locateWritten (object : H.Object) {written : String} (left : Text.trim written.toList ≠ []) :
    interpreter.locate action object (some written) = (do
      let effectiveId ← interpreter.indexedId action object (String.ofList (Text.trim written.toList))
      Act.ask interpreter.container (.object effectiveId)) := by
  simp only [locate, Option.map_some]
  split
  · next none => cases none
  · next empty =>
    have none := congrArg String.toList (Option.some.inj empty)
    rw [String.toList_ofList] at none
    exact absurd none left
  · next indexes same =>
    cases same
    rfl

section
variable (absolute : interpreter.container.relative = false)
include absolute

theorem locateMalformed (object : H.Object) {written : String} {invalid : RepeatIndex.Invalid}
    (left : Text.trim written.toList ≠ [])
    (parsed : RepeatIndex.parse (String.ofList (Text.trim written.toList)) = .error invalid) :
    interpreter.locate action object (some written) machine =
      ⟨.error (.repeatIndex invalid), machine, []⟩ := by
  rw [locateWritten object left, indexedId, if_neg (by simp [absolute]), parsed]
  rfl

theorem locateIndexed {object : H.Object} {written prefixedId : String} {indexes : List Nat}
    {found? : Option H.Object} {state state' : H.State} (left : Text.trim written.toList ≠ [])
    (parsed : RepeatIndex.parse (String.ofList (Text.trim written.toList)) = .ok indexes)
    (named : interpreter.container.answer (.prefixedId object) machine.state = (prefixedId, state))
    (answered : interpreter.container.answer
      (.object (EffectiveId.withIndexes prefixedId indexes)) state = (found?, state')) :
    interpreter.locate action object (some written) machine =
      ⟨.ok found?, { machine with state := state' }, [.asked (.prefixedId object),
        .asked (.object (EffectiveId.withIndexes prefixedId indexes))]⟩ := by
  have id : interpreter.indexedId action object (String.ofList (Text.trim written.toList)) machine =
      ⟨.ok (EffectiveId.withIndexes prefixedId indexes), { machine with state },
        [.asked (.prefixedId object)]⟩ := by
    rw [indexedId, if_neg (by simp [absolute]), parsed]
    have read : (Act.ofExcept ((Except.ok indexes).mapError ActionError.repeatIndex) :
        Act H ActionError (List Nat)) machine = ⟨.ok indexes, machine, []⟩ := rfl
    exact Act.bindThen read (Act.bindThen (Act.askBy named) rfl)
  rw [locateWritten object left]
  exact Act.bindThen id (Act.askBy answered)

theorem reachedIff {object : H.Object} {written? : Option String}
    {outcome : Outcome H ActionError (Option H.Object)} :
    Reached interpreter object written? machine outcome ↔
      interpreter.locate action object written? machine = outcome := by
  have visible {written : String} (some : Text.words (Text.trim written.toList) ≠ []) :
      Text.trim written.toList ≠ [] := fun none => some (by simp [none, Text.words])
  constructor
  · intro reached
    cases reached with
    | here blank =>
      rw [locateBlank object blank]
      rfl
    | @malformed written text before word after present trimmed split sound bad =>
      subst present trimmed
      have parsed : RepeatIndex.parse (String.ofList (Text.trim written.toList)) =
          .error ⟨_, String.ofList word⟩ :=
        RepeatIndex.parseError.mpr ⟨before, word, after, by simpa using split, sound, bad, rfl⟩
      exact locateMalformed absolute object (visible (by simp [split])) parsed
    | @indexed written _ indexes _ _ _ _ _ present trimmed parsed some positive named' same answered =>
      subst present trimmed same
      have each := RepeatIndex.parseOk.mp parsed
      rw [String.toList_ofList] at each
      have shown : Text.words (Text.trim written.toList) ≠ [] := fun none =>
        some (List.forall₂_nil_left_iff.mp (none ▸ each))
      rw [← EffectiveId.withIndexesSome _ some] at answered ⊢
      exact locateIndexed absolute (visible shown) parsed named' answered
  · rintro rfl
    by_cases blank : ∀ written, written? = some written → ∀ c ∈ written.toList, Text.isBlank c
    · rw [locateBlank object blank]
      exact .here blank
    · obtain ⟨written, shown⟩ := Classical.not_forall.mp blank
      obtain ⟨rfl, shown⟩ := Classical.not_imp.mp shown
      have left : Text.trim written.toList ≠ [] := fun none =>
        shown fun _ => Text.trimEmpty.mp none
      cases parsed : RepeatIndex.parse (String.ofList (Text.trim written.toList)) with
      | error invalid =>
        rw [locateMalformed absolute object left parsed]
        obtain ⟨before, word, after, split, sound, bad, rfl⟩ := RepeatIndex.parseError.mp parsed
        exact .malformed rfl rfl (by simpa using split) sound bad
      | ok indexes =>
        have each := RepeatIndex.parseOk.mp parsed
        have some : indexes ≠ [] := fun none => by
          rw [none, List.forall₂_nil_right_iff, String.toList_ofList] at each
          exact shown fun _ => Text.wordsOfTrim.mp each
        rw [locateIndexed absolute left parsed rfl rfl]
        exact .indexed rfl rfl parsed some (RepeatIndex.readPositive each) rfl
          (EffectiveId.withIndexesSome _ some) rfl

/-- The search for a target comes to what is said of it, and to nothing else. -/
theorem objectResolved {targetId : String} {outcome : Outcome H ActionError (Option H.Object)} :
    Resolved interpreter action targetId machine outcome ↔
      interpreter.findObject action targetId machine = outcome := by
  rw [findObjectEq]
  constructor
  · intro resolved
    cases resolved with
    | unknown unknown => exact Act.bindThen (seekBy unknown) rfl
    | unfilled known filled =>
      exact Act.bindThen (seekBy known) (Act.bindStops (filledIff.mp filled))
    | found known filled reached =>
      exact Act.bindThen (seekBy known)
        (Act.bindThen (filledIff.mp filled) ((reachedIff absolute).mp reached))
  · rintro rfl
    cases answered : interpreter.container.answer (interpreter.targetOf action targetId)
        machine.state with
    | mk found? state =>
      cases found? with
      | none =>
        rw [Act.bindThen (seekBy answered) rfl]
        exact .unknown answered
      | some object =>
        cases ran : interpreter.fillTemplate action (interpreter.indexesOf? action)
            { machine with state } with
        | mk result between events =>
          cases result with
          | error error =>
            rw [Act.bindThen (seekBy answered) (Act.bindStops ran)]
            exact .unfilled answered (filledIff.mpr ran)
          | ok written? =>
            rw [Act.bindThen (seekBy answered) (Act.bindThen ran rfl)]
            exact .found answered (filledIff.mpr ran) ((reachedIff absolute).mpr rfl)

end
end
end Interpreter

namespace Repeating

abbrev host : Host where
  State := Nat
  Item := Nat
  Object := String
  Trigger := Unit
  Note := Unit
  truth? item := some (item != 0)

def evaluator : Evaluator Nat Nat
  | .items, _, count => (.ok [], count + 1)
  | .text, _, count => (.ok none, count + 1)
  | .template, _, count => (.ok "\u00A02\u2003+03 ", count + 1)

def container : Container host where
  component := ""
  answer
    | .scope _, count => (none, count)
    | .target _ targetId _, count => (some targetId, count)
    | .prefixedId object, count => (object, count)
    | .object effectiveId, count => (some effectiveId, count)
    | .relativeId _ _ _, count => (.ok "", count)
  relative := false

def focus : Action :=
  .build (.unqualified "setfocus") "focus" [.assign Settings.standard.repeatIndexes "{indexes}"]

def interpreter : Interpreter host where
  container
  evaluator
  handlerFor := fun _ => none
  settings := .standard
  invocation := { action := focus, handlerId := "", trigger := (), observer := "" }
  spans := []

def machine : Machine host := ⟨(0 : Nat), .ofRoot (.start [(7 : Nat)])⟩

end Repeating

theorem Interpreter.objectResolvedAtIndexes :
    Repeating.interpreter.Resolved Repeating.focus "target" Repeating.machine
        (Repeating.interpreter.findObject Repeating.focus "target" Repeating.machine) ∧
      (Repeating.interpreter.findObject Repeating.focus "target" Repeating.machine).result.toOption =
        some (some "target⊙2-3") :=
  ⟨(objectResolved rfl).mpr rfl, by decide +kernel⟩

end ActionTree

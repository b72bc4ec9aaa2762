import ActionTree.Action.Builder
import ActionTree.Proofs.Overwriting

/-! The attributes of an action that is built step by step. Each has the name it was first set under
and the value it was last set to, and they stand in the order in which they were first set. -/
namespace ActionTree
open Overwriting (first? last?)

def Attribute.key (held : Attribute) : Option String × String := held.name.expanded

namespace AttributeKey

def expanded : AttributeKey → Option String × String
  | plain localPart => (none, localPart)
  | named name => name.expanded

theorem matchesIff (key : AttributeKey) (held : Attribute) :
    key.Matches held.name ↔ held.key = key.expanded := by
  cases key with
  | plain localPart => exact Prod.mk_inj.symm
  | named name => exact Iff.rfl

end AttributeKey

namespace Action

theorem attributeFirst (action : Action) (key : AttributeKey) : action.attribute? key =
    (first? Attribute.key key.expanded action.attributes).map Attribute.value := by
  simp only [attribute?, first?, key.matchesIff]

section
variable (new : Attribute) (attributes : List Attribute)

theorem keysAssign : (assign new.name new.value attributes).map Attribute.key =
    if new.key ∈ attributes.map Attribute.key then attributes.map Attribute.key
    else attributes.map Attribute.key ++ [new.key] := by
  induction attributes with
  | nil => rfl
  | cons held rest ih =>
    by_cases same : held.name.Same new.name
    · have seen : new.key ∈ (held :: rest).map Attribute.key :=
        List.mem_cons.mpr (.inl (Eq.symm same))
      rw [assign, if_pos same, if_pos seen]
      rfl
    · have other : new.key ≠ held.key := Ne.symm same
      simp only [assign, if_neg same, List.map_cons, ih, List.mem_cons, other, false_or]
      split <;> rfl

theorem firstAssign (wanted : Option String × String) :
    first? Attribute.key wanted (assign new.name new.value attributes) =
      if new.key = wanted then
        some ((first? Attribute.key wanted attributes).elim new fun held =>
          { held with value := new.value })
      else first? Attribute.key wanted attributes := by
  induction attributes with
  | nil => exact Overwriting.firstCons Attribute.key wanted new []
  | cons held rest ih =>
    by_cases same : held.name.Same new.name
    · have key : held.key = new.key := same
      have renewed : ({ held with value := new.value } : Attribute).key = new.key := same
      rw [assign, if_pos same, Overwriting.firstCons, Overwriting.firstCons, renewed, key]
      split <;> rfl
    · have other : held.key ≠ new.key := same
      rw [assign, if_neg same, Overwriting.firstCons, Overwriting.firstCons, ih]
      by_cases found : held.key = wanted
      · rw [if_pos found, if_pos found, if_neg fun also => other (found.trans also.symm)]
      · rw [if_neg found, if_neg found]

theorem valueAssign (wanted : Option String × String) :
    (first? Attribute.key wanted (assign new.name new.value attributes)).map Attribute.value =
      if new.key = wanted then some new.value
      else (first? Attribute.key wanted attributes).map Attribute.value := by
  rw [firstAssign]
  by_cases found : new.key = wanted
  · rw [if_pos found, if_pos found]
    cases first? Attribute.key wanted attributes <;> rfl
  · rw [if_neg found, if_neg found]

theorem nameAssign (wanted : Option String × String) :
    (first? Attribute.key wanted (assign new.name new.value attributes)).map Attribute.name =
      ((first? Attribute.key wanted attributes).map Attribute.name).or
        (if new.key = wanted then some new.name else none) := by
  rw [firstAssign]
  by_cases found : new.key = wanted
  · rw [if_pos found, if_pos found]
    cases first? Attribute.key wanted attributes <;> rfl
  · rw [if_neg found, if_neg found, Option.or_none]

end

/-- What a step sets, if it sets an attribute. -/
def Step.setting? : Step → Option Attribute
  | assign name value => some ⟨name, value⟩
  | _ => none

def settings (steps : List Step) : List Attribute := steps.filterMap Step.setting?

theorem attributesApplied (action : Action) (steps : List Step) :
    (steps.foldl Step.apply action).attributes =
      (settings steps).foldl (fun held new => assign new.name new.value held) action.attributes := by
  induction steps generalizing action with
  | nil => rfl
  | cons step rest ih => cases step <;> exact ih _

section
variable (name : Name) (staticId : String) (steps : List Step)

theorem attributesBuilt : (build name staticId steps).attributes =
    (settings steps).foldl (fun held new => assign new.name new.value held) [] :=
  attributesApplied (bare name staticId) steps

theorem keysBuilt : (build name staticId steps).attributes.map Attribute.key =
    ((settings steps).map Attribute.key).eraseDups := by
  rw [attributesBuilt]
  exact Overwriting.foldKeys (List.map Attribute.key) (fun held new => keysAssign new held) rfl _

theorem attributeBuilt (key : AttributeKey) : (build name staticId steps).attribute? key =
    (last? Attribute.key key.expanded (settings steps)).map Attribute.value := by
  rw [attributeFirst, attributesBuilt]
  apply Overwriting.foldLast
    fun held => (first? Attribute.key key.expanded held).map Attribute.value
  · exact fun held new => valueAssign new held key.expanded
  · rfl

theorem distinctBuilt : ((build name staticId steps).attributes.map Attribute.key).Nodup := by
  rw [keysBuilt]
  exact Overwriting.eraseDupsDistinct _

theorem nameBuilt (wanted : Option String × String) :
    (first? Attribute.key wanted (build name staticId steps).attributes).map Attribute.name =
      (first? Attribute.key wanted (settings steps)).map Attribute.name := by
  rw [attributesBuilt]
  apply Overwriting.foldFirst fun held => (first? Attribute.key wanted held).map Attribute.name
  · exact fun held new => nameAssign new held wanted
  · rfl

end

theorem settingsApart {step : Step} (unset : step.setting? = none) (before after : List Step) :
    settings (before ++ step :: after) = settings (before ++ after) := by
  simp only [settings, List.filterMap_append, List.filterMap_cons, unset]

theorem plainNamed (action : Action) (localPart : String) :
    action.attribute? (.plain localPart) = action.attribute? (.named (.unqualified localPart)) := by
  rw [attributeFirst, attributeFirst]
  rfl

/-- An action that is built has one attribute for each expanded name that was set. It keeps the name
of the first setting and has the value of the last. -/
theorem lastSettingStays :
    (∀ (name : Name) (staticId : String) (steps : List Step),
      (∀ key : AttributeKey, (build name staticId steps).attribute? key =
        (last? Attribute.key key.expanded (settings steps)).map Attribute.value) ∧
      ((build name staticId steps).attributes.map Attribute.key).Nodup ∧
      (build name staticId steps).attributes.map Attribute.key =
        ((settings steps).map Attribute.key).eraseDups ∧
      ∀ held ∈ (build name staticId steps).attributes,
        (first? Attribute.key held.key (settings steps)).map Attribute.name = some held.name) ∧
    (∀ (name : Name) (staticId : String) (before after : List Step) (step : Step),
      step.setting? = none → ∀ key : AttributeKey,
      (build name staticId (before ++ step :: after)).attribute? key =
        (build name staticId (before ++ after)).attribute? key) ∧
    ∀ (action : Action) (localPart : String),
      action.attribute? (.plain localPart) = action.attribute? (.named (.unqualified localPart)) := by
  refine ⟨fun name staticId steps => ⟨attributeBuilt name staticId steps,
    distinctBuilt name staticId steps, keysBuilt name staticId steps, fun held member => ?_⟩,
    fun name staticId before after step unset key => ?_, plainNamed⟩
  · rw [← nameBuilt name staticId,
      Overwriting.firstMember Attribute.key (distinctBuilt name staticId steps) member]
    rfl
  · rw [attributeBuilt, attributeBuilt, settingsApart unset]

def namedTwice : List Step :=
  [.assign (.inNamespace "urn:x" "a" "if") "one", .plain "if" "true()", .declare "b" "urn:x",
    .assign (.inNamespace "urn:x" "b" "if") "two"]

theorem lastSettingStaysAcrossQualifiers :
    let action := build (.unqualified "setvalue") "s" namedTwice
    action.attribute? (.named (.inNamespace "urn:x" "c" "if")) = some "two" ∧
      action.attribute? (.plain "if") = some "true()" ∧
      action.attributes.map Attribute.key = [(some "urn:x", "if"), (none, "if")] ∧
      ⟨.inNamespace "urn:x" "a" "if", "two"⟩ ∈ action.attributes ∧
      (first? Attribute.key (some "urn:x", "if") (settings namedTwice)).map Attribute.name =
        some (.inNamespace "urn:x" "a" "if") ∧
      (Step.declare "b" "urn:x").setting? = none ∧
      action.attribute? (.plain "if") = (build (.unqualified "setvalue") "s"
        (namedTwice.take 2 ++ namedTwice.drop 3)).attribute? (.plain "if") := by
  obtain ⟨built, apart, _⟩ := lastSettingStays
  obtain ⟨values, _, keys, names⟩ := built (.unqualified "setvalue") "s" namedTwice
  have member : ⟨.inNamespace "urn:x" "a" "if", "two"⟩ ∈
      (build (.unqualified "setvalue") "s" namedTwice).attributes := by decide
  have same := apart (.unqualified "setvalue") "s" (namedTwice.take 2) (namedTwice.drop 3)
    (.declare "b" "urn:x") rfl (.plain "if")
  exact ⟨(values _).trans (by decide), (values _).trans (by decide), keys.trans (by decide), member,
    names _ member, rfl, same⟩

end Action
end ActionTree

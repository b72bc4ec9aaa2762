import ActionTree.Proofs.Restoration

/-! Effective ids and their parts. Every text falls into a component, a static id and perhaps an
iteration, and parts that are free of the separators that follow them are found again. So an id
can be taken apart and put together with another static id, and all else stays. -/
namespace ActionTree
namespace EffectiveId

/-- What may stand before a static id: nothing, or names that end with their separator. -/
structure IsComponent (component : String) : Prop where
  unrepeated : '⊙' ∉ component.toList
  ended : component = "" ∨ ∃ names, component = names ++ "≡"

structure IsStatic (staticId : String) : Prop where
  unnested : '≡' ∉ staticId.toList
  unrepeated : '⊙' ∉ staticId.toList

structure Proper (id : EffectiveId) : Prop where
  component : IsComponent id.component
  staticId : IsStatic id.staticId

/-- What is read off a text. -/
structure Splits (text component staticId suffix : String) : Prop where
  prefixedId : (ofText text).prefixedId = component ++ staticId
  component : (ofText text).component = component
  staticId : (ofText text).staticId = staticId
  suffix : (ofText text).suffix = suffix

theorem prefixedOfText (text : String) :
    (ofText text).prefixedId.toList = Text.beforeFirst repeatSeparator text.toList := by
  simp only [prefixedId, ofText, String.toList_append, String.toList_ofList,
    Text.throughLastAfterLast]

theorem properOfText (text : String) : (ofText text).Proper := by
  have free : '⊙' ∉ (ofText text).prefixedId.toList :=
    prefixedOfText text ▸ Text.notMemBeforeFirst repeatSeparator text.toList
  rw [prefixedId, String.toList_append, List.mem_append, not_or] at free
  refine ⟨⟨free.1, ?_⟩, ⟨?_, free.2⟩⟩
  · rcases Text.throughLastShape componentSeparator
      (Text.beforeFirst repeatSeparator text.toList) with nothing | ⟨names, found⟩
    · exact .inl (by simp only [ofText, nothing, String.ofList_nil])
    · exact .inr ⟨String.ofList names, by simp only [ofText, found, String.ofList_append]; rfl⟩
  · have last : (ofText text).staticId.toList = Text.afterLast componentSeparator
        (Text.beforeFirst repeatSeparator text.toList) := String.toList_ofList
    rw [last]
    exact Text.notMemAfterLast componentSeparator _

section
variable {id : EffectiveId} (proper : id.Proper)
include proper

theorem Proper.free : '⊙' ∉ id.prefixedId.toList := by
  rw [prefixedId, String.toList_append, List.mem_append, not_or]
  exact ⟨proper.component.unrepeated, proper.staticId.unrepeated⟩

theorem Proper.cut {text : String}
    (same : Text.beforeFirst repeatSeparator text.toList = id.prefixedId.toList) :
    (ofText text).component = id.component ∧ (ofText text).staticId = id.staticId := by
  have ended : id.component.toList = [] ∨
      ∃ names, id.component.toList = names ++ [componentSeparator] := by
    rcases proper.component.ended with none | ⟨names, same⟩
    · exact .inl (by rw [none]; rfl)
    · exact .inr ⟨names.toList, by rw [same, String.toList_append]; rfl⟩
  have component := Text.throughLastAppend ended proper.staticId.unnested
  have staticId := Text.afterLastAppend ended proper.staticId.unnested
  rw [prefixedId, String.toList_append] at same
  simp only [ofText, same, component, staticId, String.ofList_toList, and_self]

theorem Proper.whole {text : String}
    (same : Text.beforeFirst repeatSeparator text.toList = id.prefixedId.toList)
    (iteration : (ofText text).iteration? = id.iteration?) : ofText text = id := by
  obtain ⟨component, staticId⟩ := proper.cut same
  calc ofText text
    _ = ⟨(ofText text).component, (ofText text).staticId, (ofText text).iteration?⟩ := rfl
    _ = ⟨id.component, id.staticId, id.iteration?⟩ := by rw [component, staticId, iteration]

theorem ofTextText : ofText id.text = id := by
  cases iteration : id.iteration? with
  | none =>
    have whole : id.text.toList = id.prefixedId.toList := by simp only [text, iteration]
    have rest := Text.fromFirstEmpty.mpr proper.free
    refine proper.whole ?_ ?_
    · rw [whole]
      exact Text.beforeFirstOfAbsent proper.free
    · rw [iteration, ofText, whole]
      simp only [repeatSeparator, rest]
  | some later =>
    have whole : id.text.toList = id.prefixedId.toList ++ repeatSeparator :: later.toList := by
      simp only [text, iteration, String.toList_append, String.toList_singleton, List.append_assoc,
        List.singleton_append]
    have rest := Text.fromFirstAppend proper.free later.toList
    refine proper.whole ?_ ?_
    · rw [whole]
      exact Text.beforeFirstAppend proper.free later.toList
    · rw [iteration, ofText, whole]
      simp only [repeatSeparator, rest, String.ofList_toList]

end

section
variable {component staticId : String} (outer : IsComponent component) (inner : IsStatic staticId)
include outer inner

theorem splitsPlain : Splits (component ++ staticId) component staticId "" := by
  have proper : Proper ⟨component, staticId, none⟩ := ⟨outer, inner⟩
  have whole : text ⟨component, staticId, none⟩ = component ++ staticId := rfl
  have read := ofTextText proper
  rw [whole] at read
  constructor <;> rw [read] <;> rfl

theorem splitsRepeated (later : String) :
    Splits (component ++ staticId ++ "⊙" ++ later) component staticId later := by
  have proper : Proper ⟨component, staticId, some later⟩ := ⟨outer, inner⟩
  have whole : text ⟨component, staticId, some later⟩ = component ++ staticId ++ "⊙" ++ later := rfl
  have read := ofTextText proper
  rw [whole] at read
  constructor <;> rw [read] <;> rfl

end

theorem scopeComponent {scope : Scope} (unrepeated : '⊙' ∉ scope.id.toList) :
    IsComponent scope.component := by
  unfold Scope.component
  split
  · exact ⟨nofun, .inl rfl⟩
  · refine ⟨?_, .inr ⟨scope.id, rfl⟩⟩
    rw [String.toList_append, List.mem_append, not_or]
    exact ⟨unrepeated, by decide⟩

theorem textShape (e : String) :
    ('⊙' ∉ e.toList ∧ (ofText e).suffix = "" ∧ (ofText e).prefixedId = e) ∨
      ('⊙' ∈ e.toList ∧ (ofText e).prefixedId ++ "⊙" ++ (ofText e).suffix = e) := by
  have whole := textOfText e
  cases iteration : (ofText e).iteration? with
  | none =>
    simp only [text, iteration] at whole
    have free := (properOfText e).free
    rw [whole] at free
    exact .inl ⟨free, by rw [suffix, iteration, Option.getD_none], whole⟩
  | some later =>
    simp only [text, iteration] at whole
    have found : '⊙' ∈ e.toList := by
      rw [← whole]
      simp [repeatSeparator]
    have known : (ofText e).suffix = later := by rw [suffix, iteration, Option.getD_some]
    exact .inr ⟨found, known ▸ whole⟩

theorem prefixedPlain {e : String} (unrepeated : '⊙' ∉ e.toList) : (ofText e).prefixedId = e := by
  rcases textShape e with ⟨_, _, whole⟩ | ⟨found, _⟩
  · exact whole
  · exact absurd found unrepeated

theorem textComposed (e : String) : e =
    (ofText e).prefixedId ++ if '⊙' ∈ e.toList then "⊙" ++ (ofText e).suffix else "" := by
  rcases textShape e with ⟨absent, _, whole⟩ | ⟨found, whole⟩
  · rw [if_neg absent, String.append_empty, whole]
  · rw [if_pos found, ← String.append_assoc, whole]

/-- Each text has its parts, free of the separators by which they are found, and these are the only
parts that it has. -/
theorem decomposedUniquely :
    (∀ e : String,
      e = (ofText e).component ++ (ofText e).staticId ++
        (if '⊙' ∈ e.toList then "⊙" ++ (ofText e).suffix else "") ∧
      (ofText e).prefixedId = (ofText e).component ++ (ofText e).staticId ∧
      (ofText e).prefixedId.toList = e.toList.takeWhile (· != '⊙') ∧
      IsStatic (ofText e).staticId ∧ IsComponent (ofText e).component) ∧
    (∀ component staticId : String, IsComponent component → IsStatic staticId →
      (∀ later, Splits (component ++ staticId ++ "⊙" ++ later) component staticId later) ∧
      Splits (component ++ staticId) component staticId "") ∧
    ∀ (scope : Scope) (staticId : String), '⊙' ∉ scope.id.toList → IsStatic staticId →
      Splits (scope.component ++ staticId) scope.component staticId "" :=
  ⟨fun e => ⟨textComposed e, rfl, prefixedOfText e, (properOfText e).staticId,
      (properOfText e).component⟩,
    fun _ _ outer inner => ⟨splitsRepeated outer inner, splitsPlain outer inner⟩,
    fun _ _ unrepeated inner => splitsPlain (scopeComponent unrepeated) inner⟩

theorem decomposedUniquelyAmongSeparators :
    Splits "a≡≡row⊙1≡2⊙3" "a≡≡" "row" "1≡2⊙3" ∧ Splits "outer≡inner≡row" "outer≡inner≡" "row" "" :=
  ⟨(decomposedUniquely.2.1 "a≡≡" "row" ⟨by decide, .inr ⟨"a≡", rfl⟩⟩ ⟨by decide, by decide⟩).1 "1≡2⊙3",
    decomposedUniquely.2.2 ⟨"outer≡inner"⟩ "row" (by decide) ⟨by decide, by decide⟩⟩

theorem relatedComposed (base staticId : String) : related base staticId =
    (ofText base).component ++ staticId ++
      if (ofText base).suffix = "" then "" else "⊙" ++ (ofText base).suffix := by
  simp only [related]
  split
  · exact (String.append_empty).symm
  · exact String.append_assoc

theorem splitsRelated (base : String) {staticId : String} (inner : IsStatic staticId) :
    Splits (related base staticId) (ofText base).component staticId (ofText base).suffix := by
  have outer := (properOfText base).component
  rw [relatedComposed]
  by_cases empty : (ofText base).suffix = ""
  · rw [if_pos empty, String.append_empty, empty]
    exact splitsPlain outer inner
  · rw [if_neg empty, ← String.append_assoc]
    exact splitsRepeated outer inner _

theorem relatedTwice (base : String) {staticId : String} (inner : IsStatic staticId) (other : String) :
    related (related base staticId) other = related base other := by
  have splits := splitsRelated base inner
  rw [relatedComposed (related base staticId), splits.component, splits.suffix, ← relatedComposed]

theorem relatedOwn (base : String) : related base (ofText base).staticId ++
    (if '⊙' ∈ base.toList ∧ (ofText base).suffix = "" then "⊙" else "") = base := by
  have own : related base (ofText base).staticId = (ofText base).prefixedId ++
      if (ofText base).suffix = "" then "" else "⊙" ++ (ofText base).suffix := relatedComposed base _
  rcases textShape base with ⟨absent, empty, whole⟩ | ⟨found, whole⟩
  · rw [own, if_pos empty, if_neg fun both => absent both.1, String.append_empty,
      String.append_empty, whole]
  · by_cases empty : (ofText base).suffix = ""
    · rw [empty, String.append_empty] at whole
      rw [own, if_pos empty, if_pos ⟨found, empty⟩, String.append_empty, whole]
    · rw [own, if_neg empty, if_neg fun both => empty both.2, String.append_empty,
        ← String.append_assoc, whole]

theorem relatedOwnIff (base : String) : related base (ofText base).staticId = base ↔
    ¬ ('⊙' ∈ base.toList ∧ (ofText base).suffix = "") := by
  have own := relatedOwn base
  constructor
  · intro same ended
    rw [same, if_pos ended] at own
    have longer := congrArg String.length own
    simp at longer
  · intro unended
    rwa [if_neg unended, String.append_empty] at own

/-- An id that is related to another has its component and its iteration, and of these alone and
its static id it is made. Actions of one handler differ in their source ids if they differ in their
static ids. -/
theorem relatedStays :
    (∀ base staticId : String, IsStatic staticId →
      Splits (related base staticId) (ofText base).component staticId (ofText base).suffix ∧
      ∀ other, related (related base staticId) other = related base other) ∧
    (∀ base : String,
      (related base (ofText base).staticId = base ↔
        ¬ ('⊙' ∈ base.toList ∧ (ofText base).suffix = "")) ∧
      ('⊙' ∈ base.toList ∧ (ofText base).suffix = "" →
        related base (ofText base).staticId ++ "⊙" = base)) ∧
    ∀ {H : Host} (interpreter : Interpreter H) (first second : Action),
      IsStatic first.staticId → IsStatic second.staticId →
      Splits (interpreter.sourceId first) (ofText interpreter.invocation.handlerId).component
        first.staticId (ofText interpreter.invocation.handlerId).suffix ∧
      (interpreter.sourceId first = interpreter.sourceId second →
        first.staticId = second.staticId) := by
  refine ⟨fun base _ inner => ⟨splitsRelated base inner, relatedTwice base inner⟩,
    fun base => ⟨relatedOwnIff base, fun ended => ?_⟩, ?_⟩
  · have own := relatedOwn base
    rwa [if_pos ended] at own
  · intro H interpreter first second firstInner secondInner
    have firstSplits := splitsRelated interpreter.invocation.handlerId firstInner
    have secondSplits := splitsRelated interpreter.invocation.handlerId secondInner
    refine ⟨firstSplits, fun same => ?_⟩
    calc first.staticId
      _ = (ofText (interpreter.sourceId first)).staticId := firstSplits.staticId.symm
      _ = (ofText (interpreter.sourceId second)).staticId := by rw [same]
      _ = second.staticId := secondSplits.staticId

def handling : Interpreter Counting.host :=
  { Counting.interpreter with
    invocation := { Counting.interpreter.invocation with handlerId := "a≡handler⊙1≡2" } }

theorem relatedStaysInIteration :
    (Splits (related "a≡handler⊙1≡2" "row") "a≡" "row" "1≡2" ∧
      related (related "a≡handler⊙1≡2" "row") "x⊙y" = "a≡x⊙y⊙1≡2") ∧
    related "a≡row⊙" "row" ++ "⊙" = "a≡row⊙" ∧
    Splits (handling.sourceId Counting.block) "a≡" "block" "1≡2" ∧
      handling.sourceId Counting.block ≠ handling.sourceId (Counting.action "watch" [] []) := by
  obtain ⟨stays, own, sources⟩ := relatedStays
  have component : (ofText "a≡handler⊙1≡2").component = "a≡" := by decide
  have later : (ofText "a≡handler⊙1≡2").suffix = "1≡2" := by decide
  have row := stays "a≡handler⊙1≡2" "row" ⟨by decide, by decide⟩
  have actions := sources handling Counting.block (Counting.action "watch" [] [])
    ⟨by decide, by decide⟩ ⟨by decide, by decide⟩
  rw [component, later] at row
  refine ⟨⟨row.1, (row.2 "x⊙y").trans (by decide)⟩, (own "a≡row⊙").2 (by decide), ?_, ?_⟩
  · exact component ▸ later ▸ actions.1
  · exact fun same => absurd (actions.2 same) (by decide)

end EffectiveId
end ActionTree

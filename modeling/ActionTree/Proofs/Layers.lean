import ActionTree.Proofs.Tracing
import Mathlib.Data.List.Infix

/-! Errors in their layers. An error is a root cause with one layer for each action that it went
through. Its trace, its text and the chain of what it blames show every layer, the outermost first,
and then the root cause. -/
namespace ActionTree
namespace ActionError

structure Layer where
  name : String
  location? : Option Location
  position : LoopPosition
  deriving DecidableEq, Repr

theorem partJoined {α : Type} (part? : Option α) (shown : α → String) :
    String.join (part?.toList.map shown) = match part? with
      | none => ""
      | some part => shown part := by
  cases part? <;> simp

namespace Layer

def around (layer : Layer) (error : ActionError) : ActionError :=
  inAction layer.name layer.location? layer.position error

/-- Where the action is and where its loops stood, as far as that is known. -/
def places (layer : Layer) : List String :=
  layer.location?.toList.map (fun location => " at " ++ location.text) ++
    layer.position.element?.toList.map (fun element => " (iteration " ++ element.repr ++ ")") ++
    layer.position.pass?.toList.map (fun pass => " (while pass " ++ pass.repr ++ ")")

def heading (layer : Layer) : String :=
  "running action `" ++ layer.name ++ "`" ++ String.join layer.places ++ ": "

theorem headingEq (layer : Layer) :
    ActionError.heading layer.name layer.location? layer.position = layer.heading := by
  obtain ⟨name, location?, element?, pass?⟩ := layer
  unfold Layer.heading places
  rw [String.join_append, String.join_append, partJoined, partJoined, partJoined,
    ← String.append_assoc, ← String.append_assoc]
  cases location? <;> cases element? <;> cases pass? <;> rfl

theorem textAround (layer : Layer) (error : ActionError) :
    (layer.around error).text = layer.heading ++ error.text :=
  congrArg (· ++ error.text) layer.headingEq

end Layer

def layered (layers : List Layer) (cause : ActionError) : ActionError :=
  layers.foldr Layer.around cause

theorem layeredRoot (error : ActionError) :
    error.rootCause.Bare ∧ ∃ layers, error = layered layers error.rootCause := by
  induction error with
  | inAction name location? position error ih =>
    obtain ⟨bare, layers, whole⟩ := ih
    exact ⟨bare, ⟨name, location?, position⟩ :: layers,
      congrArg (inAction name location? position) whole⟩
  | _ => exact ⟨trivial, [], rfl⟩

theorem rootCauseLayered (layers : List Layer) (cause : ActionError) :
    (layered layers cause).rootCause = cause.rootCause := by
  induction layers with
  | nil => rfl
  | cons layer inner ih => exact ih

theorem traceLayered (layers : List Layer) (cause : ActionError) :
    (layered layers cause).trace = layers.map Layer.name ++ cause.trace := by
  induction layers with
  | nil => rfl
  | cons layer inner ih => exact congrArg (layer.name :: ·) ih

theorem textLayered (layers : List Layer) (cause : ActionError) :
    (layered layers cause).text = String.join (layers.map Layer.heading) ++ cause.text := by
  induction layers with
  | nil => simp [layered]
  | cons layer inner ih =>
    calc (layered (layer :: inner) cause).text
      _ = layer.heading ++ (layered inner cause).text := layer.textAround _
      _ = String.join ((layer :: inner).map Layer.heading) ++ cause.text := by
        rw [ih, List.map_cons, String.join_cons, String.append_assoc]

/-- The texts of an error and of all errors inside, the outermost first. -/
def texts (layers : List Layer) (cause : ActionError) : List String :=
  layers.tails.map fun inner => (layered inner cause).text

theorem textsHead (layers : List Layer) (cause : ActionError) :
    texts layers cause = (layered layers cause).text :: (texts layers cause).tail := by
  cases layers <;> simp [texts]

theorem tailsNested (layers : List Layer) :
    layers.tails.Pairwise fun outer inner => inner <:+ outer := by
  induction layers with
  | nil => simp
  | cons layer inner ih =>
    rw [List.tails_cons, List.pairwise_cons]
    exact ⟨fun deeper member => ((List.mem_tails _ _).mp member).trans (List.suffix_cons _ _), ih⟩

theorem textsNested (layers : List Layer) (cause : ActionError) :
    (texts layers cause).Pairwise fun outer inner => ∃ before, outer = before ++ inner := by
  rw [texts, List.pairwise_map]
  apply (tailsNested layers).imp
  intro outer inner nested
  obtain ⟨between, rfl⟩ := nested
  exact ⟨String.join (between.map Layer.heading), by
    rw [textLayered, textLayered, List.map_append, String.join_append, String.append_assoc]⟩

theorem causesLayered (layers : List Layer) (cause : ActionError) :
    (layered layers cause).causes = (texts layers cause).tail ++ cause.causes := by
  induction layers with
  | nil => rfl
  | cons layer inner ih =>
    calc (layered (layer :: inner) cause).causes
      _ = (layered inner cause).text :: (layered inner cause).causes := rfl
      _ = texts inner cause ++ cause.causes := by
        rw [ih, textsHead inner cause, List.tail_cons, List.cons_append]
      _ = (texts (layer :: inner) cause).tail ++ cause.causes := by simp [texts]

/-- Arose in an evaluator or a handler that told which fault it blames. -/
inductive Blames : ActionError → Fault → Prop
  | evaluation {error source} (told : error.cause? = some source) :
      Blames (.evaluation error) source
  | binding {error source} (told : error.cause? = some source) :
      Blames (.binding (.evaluation error)) source
  | failed {message source} : Blames (.failed message (some source)) source

end ActionError

namespace Fault

theorem textsCons (fault : Fault) : fault.texts = fault.text :: fault.texts.tail := by
  cases fault <;> rfl

theorem textsNonempty (fault : Fault) : fault.texts ≠ [] := by
  rw [textsCons]
  exact List.cons_ne_nil _ _

theorem textsInjective {fault other : Fault} (same : fault.texts = other.texts) :
    fault = other := by
  induction fault generalizing other with
  | alone text => cases other with
    | alone other =>
      cases same
      rfl
    | blaming other source => exact absurd (List.cons.inj same).2.symm source.textsNonempty
  | blaming text below ih => cases other with
    | alone other => exact absurd (List.cons.inj same).2 below.textsNonempty
    | blaming other source =>
      obtain ⟨rfl, rest⟩ := List.cons.inj same
      rw [ih rest]

theorem sourceNone (fault : Fault) : fault.source? = none ↔ fault = .alone fault.text := by
  cases fault with
  | alone text => exact ⟨fun _ => rfl, fun _ => rfl⟩
  | blaming text source => exact ⟨nofun, nofun⟩

theorem textsElim {source? : Option Fault} {source : Fault} :
    source?.elim [] texts = source.texts ↔ source? = some source := by
  cases source? with
  | none => exact ⟨fun empty => absurd empty.symm source.textsNonempty, nofun⟩
  | some other =>
    constructor
    · intro same
      exact congrArg some (textsInjective same)
    · intro same
      exact congrArg texts (Option.some.inj same)

end Fault

namespace ActionError

def blamed? : ActionError → Option Fault
  | evaluation error => error.cause?
  | binding error => error.cause?
  | failed _ cause? => cause?
  | _ => none

theorem blamesBlamed {cause : ActionError} {source : Fault} :
    Blames cause source ↔ cause.blamed? = some source := by
  constructor
  · intro blames
    cases blames with
    | evaluation told => exact told
    | binding told => exact told
    | failed => rfl
  · intro told
    cases cause with
    | evaluation error => exact .evaluation told
    | binding error =>
      cases error with
      | evaluation error => exact .binding told
      | _ => cases told
    | failed message cause? =>
      cases told
      exact .failed
    | _ => cases told

section
variable {cause : ActionError} (bare : cause.Bare)
include bare

theorem causesBlamed : cause.causes = cause.blamed?.elim [] Fault.texts := by
  cases cause with
  | inAction name location? position error => exact bare.elim
  | _ => rfl

theorem blamesIff {source : Fault} : Blames cause source ↔ cause.causes = source.texts := by
  rw [blamesBlamed, causesBlamed bare, Fault.textsElim]

theorem blamesNone : (∀ source, ¬ Blames cause source) ↔ cause.causes = [] := by
  simp only [blamesBlamed, causesBlamed bare, ← Option.eq_none_iff_forall_ne_some]
  cases cause.blamed? with
  | none => exact ⟨fun _ => rfl, fun _ => rfl⟩
  | some source => exact ⟨nofun, fun empty => absurd empty source.textsNonempty⟩

theorem blamesAlone :
    (∃ source, Blames cause source ∧ source.source? = none) ↔ ∃ text, cause.causes = [text] := by
  constructor
  · rintro ⟨source, blames, last⟩
    rw [blamesIff bare, (source.sourceNone).mp last] at blames
    exact ⟨source.text, blames⟩
  · rintro ⟨text, only⟩
    exact ⟨.alone text, (blamesIff bare).mpr only, rfl⟩

end
end ActionError

/-- What an error may blame: another error of a run, or a fault from elsewhere. -/
inductive Link where
  | action (error : ActionError)
  | foreign (fault : Fault)

/-- The next link below an error. An error that stands for the one it holds passes on what that
one blames. -/
def ActionError.source? : ActionError → Option Link
  | evaluation error => error.cause?.map .foreign
  | binding error => error.cause?.map .foreign
  | failed _ cause? => cause?.map .foreign
  | inAction _ _ _ error => some (.action error)
  | _ => none

namespace Link

def text : Link → String
  | action error => error.text
  | foreign fault => fault.text

def source? : Link → Option Link
  | action error => error.source?
  | foreign fault => fault.source?.map .foreign

/-- The texts of all links below one, each the source of the one before. -/
inductive Chain : Link → List String → Prop
  | ended {link} (alone : link.source? = none) : Chain link []
  | further {link below texts} (blamed : link.source? = some below) (rest : Chain below texts) :
      Chain link (below.text :: texts)

theorem chainEnded {link : Link} (alone : link.source? = none) {texts : List String} :
    Chain link texts ↔ texts = [] := by
  constructor
  · intro chain
    cases chain with
    | ended _ => rfl
    | further blamed rest => cases alone.symm.trans blamed
  · rintro rfl
    exact .ended alone

theorem chainFurther {link below : Link} (blamed : link.source? = some below)
    {texts : List String} :
    Chain link texts ↔ ∃ rest, Chain below rest ∧ texts = below.text :: rest := by
  constructor
  · intro chain
    cases chain with
    | ended alone => cases blamed.symm.trans alone
    | further found rest =>
      cases blamed.symm.trans found
      exact ⟨_, rest, rfl⟩
  · rintro ⟨rest, chain, rfl⟩
    exact .further blamed chain

theorem chainForeign (fault : Fault) {texts : List String} :
    Chain (.foreign fault) texts ↔ texts = fault.texts.tail := by
  induction fault generalizing texts with
  | alone text => exact chainEnded rfl
  | blaming text source ih =>
    have next : (foreign (.blaming text source)).source? = some (.foreign source) := rfl
    rw [chainFurther next]
    constructor
    · rintro ⟨rest, chain, rfl⟩
      rw [ih.mp chain]
      exact source.textsCons.symm
    · rintro rfl
      exact ⟨_, ih.mpr rfl, source.textsCons⟩

theorem chainElim {link : Link} (cause? : Option Fault)
    (source : link.source? = cause?.map .foreign) {texts : List String} :
    Chain link texts ↔ texts = cause?.elim [] Fault.texts := by
  cases cause? with
  | none => exact chainEnded source
  | some fault =>
    rw [chainFurther source]
    constructor
    · rintro ⟨rest, chain, rfl⟩
      rw [(chainForeign fault).mp chain]
      exact fault.textsCons.symm
    · rintro rfl
      exact ⟨_, (chainForeign fault).mpr rfl, fault.textsCons⟩

theorem chainIff (error : ActionError) {texts : List String} :
    Chain (.action error) texts ↔ texts = error.causes := by
  induction error generalizing texts with
  | evaluation error => exact chainElim error.cause? rfl
  | binding error => exact chainElim error.cause? rfl
  | failed message cause? => exact chainElim cause? rfl
  | inAction name location? position error ih =>
    have next : (action (.inAction name location? position error)).source? =
        some (.action error) := rfl
    rw [chainFurther next]
    constructor
    · rintro ⟨rest, chain, rfl⟩
      exact congrArg (error.text :: ·) (ih.mp chain)
    · rintro rfl
      exact ⟨_, ih.mpr rfl, rfl⟩
  | _ => exact chainEnded rfl

end Link

namespace ActionError

/-- Whatever is told of an error is told of each of its layers, and at last of its root cause.
Behind that stand the fault that the root cause blames and all that this one blames in turn. -/
theorem layersKept :
    (∀ error : ActionError,
      error.rootCause.Bare ∧ ∃ layers, error = layered layers error.rootCause) ∧
    ∀ (layers : List Layer) (cause : ActionError), cause.Bare →
      (layered layers cause).trace = layers.map Layer.name ∧
      (layered layers cause).rootCause = cause ∧
      (layered layers cause).text = String.join (layers.map Layer.heading) ++ cause.text ∧
      (texts layers cause).Pairwise (fun outer inner => ∃ before, outer = before ++ inner) ∧
      (∀ chain, Link.Chain (.action (layered layers cause)) chain ↔
        chain = (layered layers cause).causes) ∧
      (∀ source, Blames cause source ↔
        (layered layers cause).causes = (texts layers cause).tail ++ source.texts) ∧
      ((∀ source, ¬ Blames cause source) ↔
        (layered layers cause).causes = (texts layers cause).tail) ∧
      ((∃ source, Blames cause source ∧ source.source? = none) ↔
        ∃ text, (layered layers cause).causes = (texts layers cause).tail ++ [text]) := by
  refine ⟨layeredRoot, fun layers cause bare => ?_⟩
  obtain ⟨untraced, alone⟩ := bareAlone bare
  refine ⟨?_, ?_, textLayered layers cause, textsNested layers cause,
    fun chain => Link.chainIff _, fun source => ?_, ?_, ?_⟩
  · rw [traceLayered, traceLevels cause, untraced, List.map_nil, List.append_nil]
  · rw [rootCauseLayered, alone]
  · rw [causesLayered, List.append_cancel_left_eq, blamesIff bare]
  · rw [causesLayered, List.append_right_eq_self, blamesNone bare]
  · simp only [causesLayered, List.append_cancel_left_eq, blamesAlone bare]

def unbound : ActionError :=
  .binding (.evaluation ⟨"ref", "boom", none, some (.blaming "unread" (.alone "root"))⟩)

def outerLayer : Layer := ⟨"block", some ⟨none, 3, 5⟩, ⟨some 2, none⟩⟩

def innerLayer : Layer := ⟨"watch", none, ⟨none, some 1⟩⟩

theorem layersKeptAroundBinding : unbound.Bare ∧ ∃ error,
    error = layered [outerLayer, innerLayer] unbound ∧
    error.trace = ["block", "watch"] ∧ error.rootCause = unbound ∧
    error.text = "running action `block` at line 3, column 5 (iteration 2): " ++
      "running action `watch` (while pass 1): error evaluating `ref`: boom" ∧
    error.causes = ["running action `watch` (while pass 1): error evaluating `ref`: boom",
      "error evaluating `ref`: boom", "unread", "root"] ∧
    Link.Chain (.action error) error.causes := by
  have bare : unbound.Bare := trivial
  obtain ⟨trace, root, text, _, chain, blamed, _⟩ :=
    layersKept.2 [outerLayer, innerLayer] unbound bare
  have causes := (blamed _).mp (.binding rfl)
  exact ⟨bare, _, rfl, trace, root, text.trans (by decide +kernel),
    causes.trans (by decide +kernel), (chain _).mpr rfl⟩

/-- A handler that blames an evaluation, which blames a file in turn. -/
def unread : ActionError :=
  .failed "halt" (some (.blaming (EvalError.text ⟨"ref", "boom", none, none⟩) (.alone "no file")))

theorem twoBehindHandler : unread.Bare ∧ (∃ source, Blames unread source) ∧
    Link.Chain (.action (layered [innerLayer] unread))
      ((texts [innerLayer] unread).tail ++ ["error evaluating `ref`: boom", "no file"]) ∧
    ∀ text, ¬ Link.Chain (.action (layered [innerLayer] unread))
      ((texts [innerLayer] unread).tail ++ [text]) := by
  have behind : unread.causes = ["error evaluating `ref`: boom", "no file"] := by decide +kernel
  refine ⟨trivial, ⟨_, .failed⟩, ?_, fun text chain => ?_⟩
  · rw [Link.chainIff, causesLayered, behind]
  · rw [Link.chainIff, causesLayered, behind, List.append_cancel_left_eq] at chain
    cases chain

end ActionError
end ActionTree

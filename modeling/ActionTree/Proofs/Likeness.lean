import ActionTree.Proofs.Watching
import Mathlib.Data.List.Forall2

/-! Likeness: the same but for the qualifiers of names, scopes and attributes that no part of the
interpreter asks for. Two watched runs are alike when they do the same events up to this, with the
same answers, and end in the same machine. -/
namespace ActionTree
open Binding (Stack Frame Spec)
variable {H : Host} {ε ε' α β : Type}

namespace Action

/-- Attributes that the interpreter itself looks up. -/
def ruling : List String := ["if", "while", "iterate", "context", "model", "bind", "ref"]

/-- Alike, whatever the children are. -/
structure Resembles (first second : Action) : Prop where
  name : first.name.Same second.name
  staticId : first.staticId = second.staticId
  namespaces : first.namespaces = second.namespaces
  location : first.location? = second.location?
  attributes : ∀ key ∈ ruling, first.attribute? (.plain key) = second.attribute? (.plain key)

inductive Alike : Action → Action → Prop where
  | alike {first second : Action} (here : first.Resembles second)
      (below : List.Forall₂ Alike first.children second.children) : Alike first second

theorem Alike.resembles {first second : Action} (alike : first.Alike second) :
    first.Resembles second := by
  cases alike
  assumption

theorem Alike.children {first second : Action} (alike : first.Alike second) :
    List.Forall₂ Alike first.children second.children := by
  cases alike
  assumption

namespace Resembles
variable {first second : Action}

theorem refl (action : Action) : action.Resembles action := ⟨rfl, rfl, rfl, rfl, fun _ _ => rfl⟩

theorem guard (alike : first.Resembles second) (guard : Guard) :
    first.guard? guard = second.guard? guard :=
  alike.attributes guard.text (by cases guard <;> simp [ruling, Guard.text])

theorem iterate (alike : first.Resembles second) : first.iterate? = second.iterate? :=
  alike.attributes "iterate" (by simp [ruling])

theorem context (alike : first.Resembles second) : first.context? = second.context? :=
  alike.attributes "context" (by simp [ruling])

theorem model (alike : first.Resembles second) : first.model? = second.model? :=
  alike.attributes "model" (by simp [ruling])

theorem bind (alike : first.Resembles second) : first.bind? = second.bind? :=
  alike.attributes "bind" (by simp [ruling])

theorem ref (alike : first.Resembles second) : first.ref? = second.ref? :=
  alike.attributes "ref" (by simp [ruling])

end Resembles
end Action

/-- The same error but for the qualifiers in the names that it reports. -/
inductive ActionError.Alike : ActionError → ActionError → Prop where
  | same (error : ActionError) : Alike error error
  | unknownAction {first second : Name} (same : first.Same second) :
      Alike (.unknownAction first) (.unknownAction second)
  | inAction {first second : Name} {location? : Option Location} {position : LoopPosition}
      {error error' : ActionError} (same : first.Same second) (cause : error.Alike error') :
      Alike (.inAction first.text location? position error)
        (.inAction second.text location? position error')

theorem ActionError.Alike.within {first second : Action} (alike : first.Resembles second)
    (position : LoopPosition) {error error' : ActionError} (cause : error.Alike error') :
    (error.within first position).Alike (error'.within second position) := by
  unfold ActionError.within
  rw [← alike.location]
  exact .inAction alike.name cause

inductive Ending (E : ε → ε → Prop) (V : α → α → Prop) : Except ε α → Except ε α → Prop where
  | failed {error error'} (alike : E error error') : Ending E V (.error error) (.error error')
  | ended {value value'} (alike : V value value') : Ending E V (.ok value) (.ok value')

theorem Ending.eq {result result' : Except ε α} (ending : Ending Eq Eq result result') :
    result = result' := by
  cases ending with
  | failed same => rw [same]
  | ended same => rw [same]

namespace Ending
variable {E : ε → ε → Prop} {V : α → α → Prop} {result result' : Except ε α}

theorem refl (errors : ∀ error, E error error) (values : ∀ value, V value value)
    (result : Except ε α) : Ending E V result result := by
  cases result with
  | error error => exact .failed (errors error)
  | ok value => exact .ended (values value)

theorem mapError {E' : ε' → ε' → Prop} {change change' : ε → ε'} (ending : Ending E V result result')
    (changes : ∀ error error', E error error' → E' (change error) (change' error')) :
    Ending E' V (result.mapError change) (result'.mapError change') := by
  cases ending with
  | failed alike => exact .failed (changes _ _ alike)
  | ended alike => exact .ended alike

end Ending

abbrev EndsAlike (first second : Except ActionError Unit) : Prop :=
  Ending ActionError.Alike Eq first second

def Binding.Spec.Alike (first second : Spec) : Prop := second = { first with scope := second.scope }

theorem Binding.Spec.Alike.refl (spec : Spec) : spec.Alike spec := rfl

def Span.Alike (first second : Span) : Prop :=
  first.action.Same second.action ∧ first.pass? = second.pass?

inductive LogEntry.Alike : LogEntry → LogEntry → Prop where
  | same (entry : LogEntry) : Alike entry entry
  | skipped {first second : Name} {guard : Guard} {reason : SkipReason} (same : first.Same second) :
      Alike (.skipped first guard reason) (.skipped second guard reason)

inductive Event.Alike : Event H → Event H → Prop where
  | same (event : Event H) : Alike event event
  | entered {action action'} (alike : action.Alike action') : Alike (.entered action) (.entered action')
  | left {action action' result result'} (alike : action.Alike action')
      (ending : EndsAlike result result') : Alike (.left action result) (.left action' result')
  | pushed {caller spec spec' result depth} (alike : spec.Alike spec') :
      Alike (.pushed caller spec result depth) (.pushed caller spec' result depth)
  | lookedUp {name name' found} (same : name.Same name') :
      Alike (.lookedUp name found) (.lookedUp name' found)
  | dispatched {action action' overridden? frame} (alike : action.Alike action') :
      Alike (.dispatched action overridden? frame) (.dispatched action' overridden? frame)
  | returned {action action' result result'} (alike : action.Alike action')
      (ending : EndsAlike result result') : Alike (.returned action result) (.returned action' result')
  | logged {entry entry' spans spans'} (alike : entry.Alike entry')
      (inside : List.Forall₂ Span.Alike spans spans') :
      Alike (.logged entry spans) (.logged entry' spans')

theorem filterMapAlike {γ : Type} {view view' : Event H → Option γ}
    (same : ∀ event event', event.Alike event' → view event = view' event')
    {events events' : List (Event H)} (alike : List.Forall₂ Event.Alike events events') :
    events.filterMap view = events'.filterMap view' := by
  induction alike with
  | nil => rfl
  | cons here _ ih => rw [List.filterMap_cons, List.filterMap_cons, same _ _ here, ih]

theorem sameEvents (events : List (Event H)) : List.Forall₂ Event.Alike events events :=
  List.forall₂_same.mpr fun event _ => .same event

def Act.Like (E : ε → ε → Prop) (V : α → α → Prop) (first second : Act H ε α) : Prop := ∀ machine,
  Ending E V (first machine).result (second machine).result ∧
    (first machine).machine = (second machine).machine ∧
      List.Forall₂ Event.Alike (first machine).events (second machine).events

def Watch.Like (E : ε → ε → Prop) (V : α → α → Prop) (first second : Watch H ε α) : Prop :=
  ∀ machine, Option.Rel (fun ended ended' => Ending E V ended.1 ended'.1 ∧ ended.2 = ended'.2)
    (first machine).ended? (second machine).ended? ∧
      List.Forall₂ Event.Alike (first machine).events (second machine).events

namespace Act

theorem likeSame {E : ε → ε → Prop} (errors : ∀ error, E error error) (act : Act H ε α) :
    Like E Eq act act :=
  fun _ => ⟨.refl errors (fun _ => rfl) _, rfl, sameEvents _⟩

theorem Like.ofEq {first second : Act H ε α} (equal : first = second) : first.Like Eq Eq second :=
  equal ▸ likeSame (fun _ => rfl) first

theorem Like.weaken {E : ε → ε → Prop} {V : α → α → Prop} {first second : Act H ε α}
    (like : first.Like Eq V second) (errors : ∀ error, E error error) : first.Like E V second := by
  intro machine
  obtain ⟨ending, rest⟩ := like machine
  refine ⟨?_, rest⟩
  generalize (first machine).result = result at ending
  generalize (second machine).result = result' at ending
  cases ending with
  | failed same => exact same ▸ .failed (errors _)
  | ended alike => exact .ended alike

theorem likeBind {E : ε → ε → Prop} {V : α → α → Prop} {W : β → β → Prop} {first second : Act H ε α}
    {next next' : α → Act H ε β} (head : first.Like E V second)
    (tail : ∀ value value', V value value' → (next value).Like E W (next' value')) :
    (first >>= next).Like E W (second >>= next') := by
  intro machine
  obtain ⟨ending, same, events⟩ := head machine
  generalize one : (first machine).result = result at ending
  generalize two : (second machine).result = result' at ending
  cases ending with
  | failed alike =>
    rw [bindError one, bindError two]
    exact ⟨.failed alike, same, events⟩
  | ended alike =>
    rw [bindOk one, bindOk two, ← same]
    obtain ⟨ending', same', events'⟩ := tail _ _ alike (first machine).machine
    exact ⟨ending', same', List.rel_append events events'⟩

theorem likeRecord {E : ε → ε → Prop} {event event' : Event H} (alike : event.Alike event') :
    Like E Eq (record event : Act H ε Unit) (record event') :=
  fun _ => ⟨.ended rfl, rfl, .cons alike .nil⟩

theorem likeMapError {E : ε → ε → Prop} {E' : ε' → ε' → Prop} {V : α → α → Prop}
    {first second : Act H ε α} {change change' : ε → ε'} (like : first.Like E V second)
    (changes : ∀ error error', E error error' → E' (change error) (change' error')) :
    (first.mapError change).Like E' V (second.mapError change') :=
  fun machine => ⟨(like machine).1.mapError changes, (like machine).2⟩

end Act

namespace Watch
variable {E : ε → ε → Prop} {V : α → α → Prop} {W : β → β → Prop}

theorem likeOfAct {first second : Act H ε α} (like : first.Like E V second) :
    (ofAct first).Like E V (ofAct second) :=
  fun machine => ⟨.some ⟨(like machine).1, (like machine).2.1⟩, (like machine).2.2⟩

theorem likePure {value value' : α} (alike : V value value') :
    Like E V (pure value : Watch H ε α) (pure value') :=
  likeOfAct fun _ => ⟨.ended alike, rfl, .nil⟩

theorem likeFail {error error' : ε} (alike : E error error') :
    Like E V (ofAct (Act.fail error) : Watch H ε α) (ofAct (Act.fail error')) :=
  likeOfAct fun _ => ⟨.failed alike, rfl, .nil⟩

theorem likeOutOfFuel : Like E V (outOfFuel : Watch H ε α) outOfFuel := fun _ => ⟨.none, .nil⟩

theorem likeBind {first second : Watch H ε α} {next next' : α → Watch H ε β}
    (head : first.Like E V second)
    (tail : ∀ value value', V value value' → (next value).Like E W (next' value')) :
    (first >>= next).Like E W (second >>= next') := by
  intro machine
  obtain ⟨ends, events⟩ := head machine
  cases one : (first machine).ended? with
  | none =>
    rw [one] at ends
    cases two : (second machine).ended? with
    | none =>
      rw [bindPending one, bindPending two]
      exact ⟨.none, events⟩
    | some ended => simp [two] at ends
  | some ended =>
    rw [one] at ends
    cases two : (second machine).ended? with
    | none => simp [two] at ends
    | some ended' =>
      rw [two] at ends
      obtain ⟨result, after⟩ := ended
      obtain ⟨result', after'⟩ := ended'
      cases ends with
      | some alike =>
        obtain ⟨ending, same⟩ := alike
        cases same
        cases ending with
        | failed alike =>
          rw [bindError one, bindError two]
          exact ⟨.some ⟨.failed alike, rfl⟩, events⟩
        | ended alike =>
          obtain ⟨ends', events'⟩ := tail _ _ alike after
          rw [bindOk one, bindOk two]
          exact ⟨ends', List.rel_append events events'⟩

theorem likeMapResult {V' : β → β → Prop} {E' : ε' → ε' → Prop} {first second : Watch H ε α}
    {change change' : Except ε α → Except ε' β} (like : first.Like E V second)
    (changes : ∀ result result', Ending E V result result' →
      Ending E' V' (change result) (change' result')) (machine : Machine H) :
    Option.Rel (fun ended ended' => Ending E' V' ended.1 ended'.1 ∧ ended.2 = ended'.2)
        ((first machine).mapResult change).ended? ((second machine).mapResult change').ended? ∧
      List.Forall₂ Event.Alike ((first machine).mapResult change).events
        ((second machine).mapResult change').events := by
  obtain ⟨ends, events⟩ := like machine
  refine ⟨?_, events⟩
  unfold Progress.mapResult
  generalize (first machine).ended? = ended? at ends
  generalize (second machine).ended? = ended?' at ends
  cases ends with
  | none => exact .none
  | some alike => exact .some ⟨changes _ _ alike.1, alike.2⟩

theorem likeMapError {E' : ε' → ε' → Prop} {first second : Watch H ε α} {change change' : ε → ε'}
    (like : first.Like E V second)
    (changes : ∀ error error', E error error' → E' (change error) (change' error')) :
    (first.mapError change).Like E' V (second.mapError change') :=
  likeMapResult like fun _ _ ending => ending.mapError changes

theorem likeAttempt {E' : ε' → ε' → Prop} {first second : Watch H ε α} (like : first.Like E V second) :
    (first.attempt : Watch H ε' (Except ε α)).Like E' (Ending E V) second.attempt :=
  likeMapResult like fun _ _ ending => .ended ending

theorem likeEnsuring {first second : Watch H ε α} {last last' : Except ε α → Act H ε Unit}
    (like : first.Like E V second)
    (lasts : ∀ result result', Ending E V result result' → (last result).Like E Eq (last' result')) :
    Like E V (Steps.ensuring first last) (Steps.ensuring second last') :=
  likeBind (likeAttempt like) fun _ _ ending => likeBind (likeOfAct (lasts _ _ ending))
    fun _ _ _ => likeOfAct fun _ => ⟨ending, rfl, .nil⟩

end Watch
end ActionTree

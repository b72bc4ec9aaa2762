import ActionTree.Binding.Stack
import ActionTree.Journal

/-! Steps of a run. A step acts on the host's state and the binding stack, appends to
the journal, and ends with a value or an error; what it did before an error stays
done. `Act` always ends; `Run` may instead run out of fuel. What is put together from
acts in the same way, whatever is kept of them, is written for all `Steps`. -/
namespace ActionTree

structure Machine (H : Host) where
  state : H.State
  stack : Binding.Stack H.Item

structure Outcome (H : Host) (ε α : Type) where
  result : Except ε α
  machine : Machine H
  events : List (Event H)

def Act (H : Host) (ε α : Type) := Machine H → Outcome H ε α

def Run (H : Host) (ε α : Type) := Machine H → Option (Outcome H ε α)

def Outcome.after {H : Host} {ε α : Type} (outcome : Outcome H ε α) (events : List (Event H)) :
    Outcome H ε α :=
  { outcome with events := events ++ outcome.events }

namespace Act
variable {H : Host} {ε ε' α β : Type}

def bind (first : Act H ε α) (next : α → Act H ε β) : Act H ε β := fun machine =>
  let outcome := first machine
  match outcome.result with
  | .error error => ⟨.error error, outcome.machine, outcome.events⟩
  | .ok value => (next value outcome.machine).after outcome.events

instance : Monad (Act H ε) where
  pure value := fun machine => ⟨.ok value, machine, []⟩
  bind := bind

theorem bindOk {first : Act H ε α} {next : α → Act H ε β} {machine : Machine H} {value : α}
    (ended : (first machine).result = .ok value) :
    (first >>= next) machine =
      (next value (first machine).machine).after (first machine).events := by
  change bind first next machine = _
  simp only [bind, ended]

theorem bindError {first : Act H ε α} {next : α → Act H ε β} {machine : Machine H} {error : ε}
    (ended : (first machine).result = .error error) :
    (first >>= next) machine = ⟨.error error, (first machine).machine, (first machine).events⟩ := by
  change bind first next machine = _
  simp only [bind, ended]

def ofExcept (result : Except ε α) : Act H ε α := fun machine => ⟨result, machine, []⟩

def fail (error : ε) : Act H ε α := ofExcept (.error error)

def mapError (change : ε → ε') (act : Act H ε α) : Act H ε' α := fun machine =>
  let outcome := act machine
  ⟨outcome.result.mapError change, outcome.machine, outcome.events⟩

/-- Ends well in any case, with what happened as the value. -/
def attempt (act : Act H ε α) : Act H ε' (Except ε α) := fun machine =>
  let outcome := act machine
  ⟨.ok outcome.result, outcome.machine, outcome.events⟩

def record (event : Event H) : Act H ε Unit := fun machine => ⟨.ok (), machine, [event]⟩

def state : Act H ε H.State := fun machine => ⟨.ok machine.state, machine, []⟩

def setState (state : H.State) : Act H ε Unit := fun machine => ⟨.ok (), { machine with state }, []⟩

def stack : Act H ε (Binding.Stack H.Item) := fun machine => ⟨.ok machine.stack, machine, []⟩

def setStack (stack : Binding.Stack H.Item) : Act H ε Unit := fun machine =>
  ⟨.ok (), { machine with stack }, []⟩

def frame : Act H ε (Binding.Frame H.Item) := fun machine => ⟨.ok machine.stack.current, machine, []⟩

def evaluate (evaluator : Evaluator H.State H.Item) (purpose : Purpose) (mode : Mode)
    (request : Request H.Item) : Act H EvalError (mode.Answer H.Item) := fun machine =>
  let (result, state) := evaluator mode request machine.state
  ⟨result, { machine with state }, [.evaluated purpose mode request result]⟩

def ask (container : Container H) (question : Question H) : Act H ε question.Answer := fun machine =>
  let (answer, state) := container.answer question machine.state
  ⟨.ok answer, { machine with state }, [.asked question]⟩

end Act

/-- Kinds of steps that can be put together from acts. -/
class Steps (H : outParam Host) (S : Type → Type → Type) [∀ ε, Monad (S ε)] where
  ofAct {ε α : Type} : Act H ε α → S ε α
  outOfFuel {ε α : Type} : S ε α
  mapError {ε ε' α : Type} : (ε → ε') → S ε α → S ε' α
  /-- Ends well in any case but lack of fuel, with what happened as the value. -/
  attempt {ε ε' α : Type} : S ε α → S ε' (Except ε α)

namespace Steps
variable {H : Host} {S : Type → Type → Type} [∀ ε, Monad (S ε)] [Steps H S] {ε α : Type}

def record (event : Event H) : S ε Unit := ofAct (Act.record event)

def frame : S ε (Binding.Frame H.Item) := ofAct Act.frame

def fail (error : ε) : S ε α := ofAct (Act.fail error)

/-- Does `last` after `body` whatever became of it, and keeps its result. -/
def ensuring (body : S ε α) (last : Except ε α → Act H ε Unit) : S ε α := do
  let result ← attempt body
  ofAct (last result)
  ofAct (Act.ofExcept result)

end Steps

namespace Run
variable {H : Host} {ε ε' α β : Type}

def bind (first : Run H ε α) (next : α → Run H ε β) : Run H ε β := fun machine =>
  match first machine with
  | none => none
  | some outcome => match outcome.result with
      | .error error => some ⟨.error error, outcome.machine, outcome.events⟩
      | .ok value => (next value outcome.machine).map (·.after outcome.events)

def ofAct (act : Act H ε α) : Run H ε α := fun machine => some (act machine)

instance : Monad (Run H ε) where
  pure value := ofAct (pure value)
  bind := bind

/-- What a sequence of two steps comes to, once it ends. -/
theorem bindEqSome {first : Run H ε α} {next : α → Run H ε β} {machine : Machine H}
    {outcome : Outcome H ε β} : (first >>= next) machine = some outcome ↔
      ∃ before, first machine = some before ∧
        ((∃ error, before.result = .error error ∧
            outcome = ⟨.error error, before.machine, before.events⟩) ∨
          ∃ value rest, before.result = .ok value ∧ next value before.machine = some rest ∧
            outcome = rest.after before.events) := by
  change bind first next machine = some outcome ↔ _
  cases ran : first machine with
  | none => simp [bind, ran]
  | some before =>
    cases ended : before.result with
    | error error => simp [bind, ran, ended, eq_comm]
    | ok value =>
      simp only [bind, ran, ended, Option.map_eq_some_iff]
      constructor
      · rintro ⟨rest, continued, rfl⟩
        exact ⟨before, rfl, .inr ⟨value, rest, ended, continued, rfl⟩⟩
      · rintro ⟨_, same, ⟨error, failed, _⟩ | ⟨value', rest, gave, continued, rfl⟩⟩
        · cases same
          exact absurd (ended.symm.trans failed) nofun
        · cases same
          cases ended.symm.trans gave
          exact ⟨rest, continued, rfl⟩

def outOfFuel : Run H ε α := fun _ => none

def mapError (change : ε → ε') (run : Run H ε α) : Run H ε' α := fun machine =>
  (run machine).map fun outcome =>
    ⟨outcome.result.mapError change, outcome.machine, outcome.events⟩

def attempt (run : Run H ε α) : Run H ε' (Except ε α) := fun machine =>
  (run machine).map fun outcome => ⟨.ok outcome.result, outcome.machine, outcome.events⟩

instance : Steps H (Run H) where
  ofAct := ofAct
  outOfFuel := outOfFuel
  mapError := mapError
  attempt := attempt

end Run
end ActionTree

import ActionTree.Proofs.Invariance

/-! Runs watched while they go on. What has happened is kept when the fuel is spent, so that of a
run that never ends every event is seen with fuel enough. -/
namespace ActionTree
open Binding (Stack Frame Spec)

structure Progress (H : Host) (ε α : Type) where
  /-- How the run ended, unless it still goes on. -/
  ended? : Option (Except ε α × Machine H)
  events : List (Event H)

def Watch (H : Host) (ε α : Type) := Machine H → Progress H ε α

namespace Progress
variable {H : Host} {ε ε' α β : Type}

def after? (progress : Progress H ε α) : Option (Machine H) := progress.ended?.map Prod.snd

def outcome? (progress : Progress H ε α) : Option (Outcome H ε α) :=
  progress.ended?.map fun ended => ⟨ended.1, ended.2, progress.events⟩

def mapResult (change : Except ε α → Except ε' β) (progress : Progress H ε α) : Progress H ε' β :=
  ⟨progress.ended?.map fun ended => (change ended.1, ended.2), progress.events⟩

theorem outcomeEvents {progress : Progress H ε α} {outcome : Outcome H ε α}
    (ended : progress.outcome? = some outcome) : progress.events = outcome.events := by
  obtain ⟨_, _, rfl⟩ := Option.map_eq_some_iff.mp ended
  rfl

theorem outcomeEnded {progress : Progress H ε α} {outcome : Outcome H ε α}
    (ended : progress.outcome? = some outcome) :
    progress.ended? = some (outcome.result, outcome.machine) := by
  obtain ⟨_, same, rfl⟩ := Option.map_eq_some_iff.mp ended
  exact same

theorem afterMapResult (change : Except ε α → Except ε' β) (progress : Progress H ε α) :
    (progress.mapResult change).after? = progress.after? := by
  simp [after?, mapResult, Function.comp_def]

end Progress

namespace Watch
variable {H : Host} {ε ε' α β : Type}

def bind (first : Watch H ε α) (next : α → Watch H ε β) : Watch H ε β := fun machine =>
  let before := first machine
  match before.ended? with
  | none => ⟨none, before.events⟩
  | some (.error error, after) => ⟨some (.error error, after), before.events⟩
  | some (.ok value, after) =>
      let rest := next value after
      { rest with events := before.events ++ rest.events }

def ofAct (act : Act H ε α) : Watch H ε α := fun machine =>
  let outcome := act machine
  ⟨some (outcome.result, outcome.machine), outcome.events⟩

instance : Monad (Watch H ε) where
  pure value := ofAct (pure value)
  bind := bind

section
variable {first : Watch H ε α} {next : α → Watch H ε β} {machine after : Machine H}

theorem bindPending (pending : (first machine).ended? = none) :
    (first >>= next) machine = ⟨none, (first machine).events⟩ := by
  change bind first next machine = _
  simp only [bind, pending]

theorem bindError {error : ε} (ended : (first machine).ended? = some (.error error, after)) :
    (first >>= next) machine = ⟨some (.error error, after), (first machine).events⟩ := by
  change bind first next machine = _
  simp only [bind, ended]

theorem bindOk {value : α} (ended : (first machine).ended? = some (.ok value, after)) :
    (first >>= next) machine =
      ⟨(next value after).ended?, (first machine).events ++ (next value after).events⟩ := by
  change bind first next machine = _
  simp only [bind, ended]

end

def outOfFuel : Watch H ε α := fun _ => ⟨none, []⟩

def mapError (change : ε → ε') (watch : Watch H ε α) : Watch H ε' α := fun machine =>
  (watch machine).mapResult (·.mapError change)

def attempt (watch : Watch H ε α) : Watch H ε' (Except ε α) := fun machine =>
  (watch machine).mapResult .ok

instance : Steps H (Watch H) where
  ofAct := ofAct
  outOfFuel := outOfFuel
  mapError := mapError
  attempt := attempt

end Watch

namespace Interpreter
variable {H : Host}

instance : Framable H (Watch H) where

def runWatched (fuel : Nat) (interpreter : Interpreter H) (action : Action) :
    Watch H ActionError Unit :=
  runIn fuel interpreter action

end Interpreter

/-- A run is what is seen of it, once it has ended. -/
def Run.SeenBy {H : Host} {ε α : Type} (run : Run H ε α) (watch : Watch H ε α) : Prop :=
  ∀ machine, run machine = (watch machine).outcome?

namespace Run
variable {H : Host} {ε ε' α β : Type} {run : Run H ε α} {watch : Watch H ε α}

theorem seenOfAct (act : Act H ε α) : (ofAct act).SeenBy (Watch.ofAct act) := fun _ => rfl

theorem seenBind {first : Run H ε α} {first' : Watch H ε α} {next : α → Run H ε β}
    {next' : α → Watch H ε β} (head : first.SeenBy first')
    (tail : ∀ value, (next value).SeenBy (next' value)) :
    (first >>= next).SeenBy (first' >>= next') := by
  intro machine
  change bind first next machine = (Watch.bind first' next' machine).outcome?
  simp only [bind, Watch.bind, head machine, Progress.outcome?]
  cases (first' machine).ended? with
  | none => rfl
  | some ended =>
    obtain ⟨result, after⟩ := ended
    cases result with
    | error error => rfl
    | ok value =>
      have rest := tail value after
      simp only [Option.map_some, rest, Progress.outcome?, Option.map_map]
      rfl

theorem seenMapError (seen : run.SeenBy watch) (change : ε → ε') :
    (run.mapError change).SeenBy (watch.mapError change) := by
  intro machine
  simp [mapError, Watch.mapError, seen machine, Progress.outcome?, Progress.mapResult,
    Function.comp_def]

theorem seenAttempt (seen : run.SeenBy watch) :
    (run.attempt : Run H ε' (Except ε α)).SeenBy watch.attempt := by
  intro machine
  simp [attempt, Watch.attempt, seen machine, Progress.outcome?, Progress.mapResult,
    Function.comp_def]

theorem seenSequencing : Sequencing (S := Run H) (T := Watch H) SeenBy where
  pure _ := seenOfAct _
  fail _ := seenOfAct _
  bind := seenBind
  mapError change seen := seenMapError seen change
  attempt := seenAttempt

end Run

namespace Interpreter

theorem seenMirroring : Mirroring (S := Run H) (T := Watch H) Run.SeenBy where
  toSequencing := Run.seenSequencing
  plain _ := Run.seenOfAct _
  record _ := Run.seenOfAct _
  within _ _ _ seen := Run.seenBind (Run.seenOfAct _) fun _ =>
    Run.seenBind (Run.seenAttempt seen) fun _ => Run.seenBind (Run.seenOfAct _) fun _ => Run.seenOfAct _

theorem runSeen (fuel : Nat) (interpreter : Interpreter H) (action : Action) :
    (runAction fuel interpreter action).SeenBy (runWatched fuel interpreter action) :=
  seenMirroring.runIn 0 (fun _ none => none rfl ▸ fun _ => rfl) (fun _ _ _ => Run.seenOfAct _)
    (fun _ _ _ _ => Program.usesAny (fun _ => trivial) _) fuel interpreter.spans action

end Interpreter
end ActionTree

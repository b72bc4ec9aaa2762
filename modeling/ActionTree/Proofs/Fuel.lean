import ActionTree.Proofs.Watching

/-! More fuel shows more of a run. What was seen with less is seen again, and a run that has ended
is the same with any fuel beyond. -/
namespace ActionTree
variable {H : Host} {ε ε' α β : Type}

inductive Progress.Onward : Progress H ε α → Progress H ε α → Prop where
  | still (progress) : Onward progress progress
  | further {events later ended?} : Onward ⟨none, events⟩ ⟨ended?, events ++ later⟩

theorem Progress.Onward.mapResult {less more : Progress H ε α} (onward : less.Onward more)
    (change : Except ε α → Except ε' β) : (less.mapResult change).Onward (more.mapResult change) := by
  cases onward with
  | still => exact .still _
  | further => exact .further

theorem Progress.Onward.outcome {less more : Progress H ε α} (onward : less.Onward more)
    {outcome : Outcome H ε α} (ended : less.outcome? = some outcome) : more.outcome? = some outcome := by
  cases onward with
  | still => exact ended
  | further => cases ended

def Watch.Onward (less more : Watch H ε α) : Prop := ∀ machine, (less machine).Onward (more machine)

namespace Watch

theorem onwardRefl (watch : Watch H ε α) : watch.Onward watch := fun machine => .still (watch machine)

theorem onwardOutOfFuel (watch : Watch H ε α) : outOfFuel.Onward watch := fun _ => .further

theorem onwardBind {first first' : Watch H ε α} {next next' : α → Watch H ε β}
    (head : first.Onward first') (tail : ∀ value, (next value).Onward (next' value)) :
    (first >>= next).Onward (first' >>= next') := by
  intro machine
  have begun := head machine
  generalize one : first machine = progress at begun
  generalize two : first' machine = progress' at begun
  cases begun with
  | @further events later ended? =>
    have pending : (first machine).ended? = none := by rw [one]
    rw [bindPending pending, one]
    cases came : ended? with
    | none =>
      have pending' : (first' machine).ended? = none := by rw [two, came]
      rw [bindPending pending', two]
      exact .further
    | some ended =>
      obtain ⟨result, after⟩ := ended
      have ended' : (first' machine).ended? = some (result, after) := by rw [two, came]
      cases result with
      | error error =>
        rw [bindError ended', two]
        exact .further
      | ok value =>
        rw [bindOk ended', two, List.append_assoc]
        exact .further
  | still =>
    cases came : progress.ended? with
    | none =>
      rw [bindPending (by rw [one, came]), bindPending (by rw [two, came]), one, two]
      exact .still _
    | some ended =>
      obtain ⟨result, after⟩ := ended
      have ended' : (first machine).ended? = some (result, after) := by rw [one, came]
      have ended'' : (first' machine).ended? = some (result, after) := by rw [two, came]
      cases result with
      | error error =>
        rw [bindError ended', bindError ended'', one, two]
        exact .still _
      | ok value =>
        rw [bindOk ended', bindOk ended'', one, two]
        generalize next value after = rest, next' value after = rest', tail value after = went
        cases went with
        | still => exact .still _
        | further =>
          rw [← List.append_assoc]
          exact .further

theorem onwardMapError {less more : Watch H ε α} (onward : less.Onward more) (change : ε → ε') :
    (less.mapError change).Onward (more.mapError change) := fun machine => (onward machine).mapResult _

theorem onwardAttempt {less more : Watch H ε α} (onward : less.Onward more) :
    (less.attempt : Watch H ε' (Except ε α)).Onward more.attempt :=
  fun machine => (onward machine).mapResult _

end Watch

namespace Interpreter

theorem onwardMirroring : Mirroring (S := Watch H) (T := Watch H) Watch.Onward where
  pure _ := Watch.onwardRefl _
  fail _ := Watch.onwardRefl _
  bind := Watch.onwardBind
  mapError change onward := Watch.onwardMapError onward change
  attempt := Watch.onwardAttempt
  plain _ := Watch.onwardRefl _
  record _ := Watch.onwardRefl _
  within _ _ _ onward := Watch.onwardBind (Watch.onwardRefl _) fun _ =>
    Watch.onwardBind (Watch.onwardAttempt onward) fun _ => Watch.onwardRefl _

theorem runOnward {fuel fuel' : Nat} (more : fuel ≤ fuel') (interpreter : Interpreter H)
    (action : Action) :
    (runWatched fuel interpreter action).Onward (runWatched fuel' interpreter action) := by
  obtain ⟨extra, rfl⟩ := Nat.exists_eq_add_of_le more
  exact onwardMirroring.runIn extra (fun _ _ => Watch.onwardOutOfFuel _)
    (fun _ _ _ => Watch.onwardRefl _) (fun _ _ _ _ => Program.usesAny (fun _ => trivial) _) fuel
    interpreter.spans action

/-- Of a run that ends, fuel beyond what it takes changes nothing. -/
theorem runActionOnward {interpreter : Interpreter H} {action : Action} {fuel fuel' : Nat}
    (more : fuel ≤ fuel') {machine : Machine H} {outcome : Outcome H ActionError Unit}
    (ended : interpreter.runAction fuel action machine = some outcome) :
    interpreter.runAction fuel' action machine = some outcome := by
  rw [runSeen] at ended ⊢
  exact (runOnward more interpreter action machine).outcome ended

end Interpreter
end ActionTree

import ActionTree.Proofs.Quiet

/-! One induction over the interpreter for all kinds of steps. A relation between steps of two kinds
that has a clause for each way to put steps together holds between the executions of an action in the
two. What is shown of the steps of one kind alone is such a relation on the diagonal. -/
namespace ActionTree
variable {H : Host} {S T : Type → Type → Type} [∀ ε, Monad (S ε)] [∀ ε, Monad (T ε)]

/-- A clause for each way to put steps in a sequence. -/
structure Sequencing [Steps H S] [Steps H T] (R : ∀ {ε α : Type}, S ε α → T ε α → Prop) : Prop where
  pure {ε α : Type} (value : α) : R (pure value : S ε α) (pure value)
  fail {ε α : Type} (error : ε) : R (Steps.fail error : S ε α) (Steps.fail error)
  bind {ε α β : Type} {first : S ε α} {first' : T ε α} {next : α → S ε β} {next' : α → T ε β} :
    R first first' → (∀ value, R (next value) (next' value)) → R (first >>= next) (first' >>= next')
  mapError {ε ε' α : Type} {step : S ε α} {step' : T ε α} (change : ε → ε') :
    R step step' → R (Steps.mapError change step) (Steps.mapError change step')
  attempt {ε ε' α : Type} {step : S ε α} {step' : T ε α} :
    R step step' → R (Steps.attempt step : S ε' (Except ε α)) (Steps.attempt step')

namespace Interpreter

/-- The single acts in an execution of an action, between those of frames and of its handler. -/
inductive Doing (interpreter : Interpreter H) (action : Action) :
    {ε α : Type} → Act H ε α → Prop where
  | frame {ε : Type} : Doing interpreter action (Act.frame : Act H ε (Binding.Frame H.Item))
  | executing {ε : Type} (spans : List Span) :
      Doing interpreter action (Act.record (.logged .executing spans) : Act H ε Unit)
  | done {ε : Type} (spans : List Span) :
      Doing interpreter action (Act.record (.logged .done spans) : Act H ε Unit)
  | lookedUp {ε : Type} (found : Bool) :
      Doing interpreter action (Act.record (.lookedUp action.name found) : Act H ε Unit)
  | admits (spans : List Span) (item? : Option H.Item) (guard : Guard) :
      Doing interpreter action ({ interpreter with spans }.admits action item? guard)

theorem Doing.plain {interpreter : Interpreter H} {action : Action} {ε α : Type} {act : Act H ε α}
    (doing : interpreter.Doing action act) : act.Plain := by
  cases doing with
  | frame => exact .frame
  | executing spans => exact .record (by simp [Event.Quiet])
  | done spans => exact .record (by simp [Event.Quiet])
  | lookedUp found => exact .record trivial
  | admits spans item? guard => exact plainAdmits { interpreter with spans } action item? guard

section
variable [Framable H S] [Framable H T]

/-- A clause for each way to put steps together in an execution of an action, whichever spans are open
around it. -/
structure Transport (interpreter : Interpreter H) (action : Action)
    (R : ∀ {ε α : Type}, S ε α → T ε α → Prop) : Prop extends Sequencing @R where
  act {ε α : Type} {act : Act H ε α} :
    interpreter.Doing action act → R (Steps.ofAct act : S ε α) (Steps.ofAct act)
  target {body : S ActionError Unit} {body' : T ActionError Unit} (spans : List Span) :
    R body body' →
      R (Framable.within { interpreter with spans } (.spec (interpreter.targetSpec action)) .binding body)
        (Framable.within { interpreter with spans } (.spec (interpreter.targetSpec action)) .binding body')
  element {body : S PlacedError Unit} {body' : T PlacedError Unit} (spans : List Span) (index : Nat) :
    R body body' →
      R (Framable.within { interpreter with spans } (.element index)
          (fun error => inPass none (.binding error)) body)
        (Framable.within { interpreter with spans } (.element index)
          (fun error => inPass none (.binding error)) body')
  execution {body : S ActionError Unit} {body' : T ActionError Unit} (overridden? : Option H.Item) :
    R body body' → R (inExecution action overridden? body) (inExecution action overridden? body')

/-- A clause for each way to put steps together, whatever the action is. -/
structure Mirroring (R : ∀ {ε α : Type}, S ε α → T ε α → Prop) : Prop extends Sequencing @R where
  plain {ε α : Type} {act : Act H ε α} :
    act.Plain → R (Steps.ofAct act : S ε α) (Steps.ofAct act)
  record {ε : Type} (event : Event H) : R (Steps.record event : S ε Unit) (Steps.record event)
  within {ε : Type} {body : S ε Unit} {body' : T ε Unit} (interpreter : Interpreter H)
    (origin : Origin) (change : BindingError → ε) : R body body' →
      R (Framable.within interpreter origin change body) (Framable.within interpreter origin change body')

end
end Interpreter

variable {R : ∀ {ε α : Type}, S ε α → T ε α → Prop}

namespace Sequencing
section
variable [Steps H S] [Steps H T] (sequencing : Sequencing @R)
include sequencing

theorem perform {α : Type} {interpreter : Interpreter H} {asks : Call H → Prop} {runs : Action → Prop}
    (run : Action → S ActionError Unit) (run' : Action → T ActionError Unit)
    (answers : ∀ call, asks call → R (Steps.ofAct (interpreter.answer call) : S ActionError _)
      (Steps.ofAct (interpreter.answer call)))
    (nested : ∀ action, runs action → R (run action) (run' action)) {program : Program H α}
    (uses : program.Uses asks) (follows : program.Runs runs) :
    R (interpreter.perform run program) (interpreter.perform run' program) := by
  -- On the program as a tree: there is a rest for each answer, and the same is allowed in it.
  induction program with
  | done value => exact sequencing.pure value
  | fail error => exact sequencing.fail error
  | ask call next ih =>
    exact sequencing.bind (sequencing.attempt (answers call uses.1))
      fun answer => ih answer (uses.2 answer) (follows answer)
  | run action next ih =>
    exact sequencing.bind (sequencing.attempt (nested action follows.1))
      fun result => ih result (uses result) (follows.2 result)

end
end Sequencing

namespace Interpreter.Transport
section
variable [Framable H S] [Framable H T] {interpreter : Interpreter H} {action : Action}
  (transport : Transport interpreter action @R)
  (run : Interpreter H → Action → S ActionError Unit) (run' : Interpreter H → Action → T ActionError Unit)
  {item? overridden? : Option H.Item}
include transport

section
variable (fuel fuel' : Nat) {spans : List Span} (passes : ∀ item? overridden?,
  R (Interpreter.runPasses run { interpreter with spans } action item? overridden? fuel 1)
    (Interpreter.runPasses run' { interpreter with spans } action item? overridden? fuel' 1))
include passes

theorem runElements (elements : List H.Item) (index : Nat) :
    R (Interpreter.runElements run { interpreter with spans } action fuel elements index)
      (Interpreter.runElements run' { interpreter with spans } action fuel' elements index) := by
  induction elements generalizing index with
  | nil => exact transport.pure ()
  | cons element rest ih =>
    have turn := transport.element spans index (passes (some element) (some element))
    exact transport.bind (transport.mapError _ turn) fun _ => ih (index + 1)

theorem runGrounded :
    R (Interpreter.runGrounded run { interpreter with spans } action fuel)
      (Interpreter.runGrounded run' { interpreter with spans } action fuel') := by
  refine transport.bind (transport.act .frame) fun frame => ?_
  split
  · exact transport.runElements run run' fuel fuel' passes _ 1
  · exact passes _ _

end

section
variable (performed : ∀ spans overridden? handler, interpreter.handlerFor action.name = some handler →
  R ({ interpreter with spans }.perform (run { interpreter with spans })
      (handler (interpreter.dispatch action overridden?)))
    ({ interpreter with spans }.perform (run' { interpreter with spans })
      (handler (interpreter.dispatch action overridden?))))
include performed

theorem execute (spans : List Span) :
    R (Interpreter.execute run { interpreter with spans } action overridden?)
      (Interpreter.execute run' { interpreter with spans } action overridden?) := by
  refine transport.bind (transport.act (.executing spans)) fun _ => ?_
  refine transport.bind (transport.act (.lookedUp _)) fun _ => ?_
  dsimp only
  cases found : interpreter.handlerFor action.name with
  | none => exact transport.fail _
  | some handler =>
    have handled := transport.execution overridden? (performed spans overridden? handler found)
    exact transport.bind (transport.target spans handled) fun _ => transport.act (.done spans)

theorem runPass (spans : List Span) (pass? : Option Nat) :
    R (Interpreter.runPass run { interpreter with spans } action item? overridden? pass?)
      (Interpreter.runPass run' { interpreter with spans } action item? overridden? pass?) := by
  refine transport.bind (transport.act (.admits spans item? .onlyIf)) fun first => ?_
  split
  · refine transport.bind (transport.act (.admits spans item? .asLongAs)) fun second => ?_
    split
    · exact transport.bind (transport.execute run run' performed _) fun _ => transport.pure true
    · exact transport.pure false
  · exact transport.pure false

theorem runPasses (more : Nat) (spent : ∀ step : T PlacedError Unit,
      (more = 0 → step = Steps.outOfFuel) → R (Steps.outOfFuel : S PlacedError Unit) step)
    (spans : List Span) (fuel pass : Nat) :
    R (Interpreter.runPasses run { interpreter with spans } action item? overridden? fuel pass)
      (Interpreter.runPasses run' { interpreter with spans } action item? overridden? (fuel + more)
        pass) := by
  induction fuel generalizing pass with
  | zero =>
    rw [Nat.zero_add]
    exact spent _ fun none => none ▸ rfl
  | succ fuel ih =>
    rw [Nat.add_right_comm]
    refine transport.bind (transport.mapError _
      (transport.runPass run run' performed spans _)) fun executed => ?_
    split
    · exact ih (pass + 1)
    · exact transport.pure ()

theorem grounded (more : Nat) (spent : ∀ step : T PlacedError Unit,
      (more = 0 → step = Steps.outOfFuel) → R (Steps.outOfFuel : S PlacedError Unit) step)
    (spans : List Span) (fuel : Nat) :
    R (Interpreter.runGrounded run { interpreter with spans } action fuel)
      (Interpreter.runGrounded run' { interpreter with spans } action (fuel + more)) :=
  transport.runGrounded run run' fuel (fuel + more) fun _ _ =>
    transport.runPasses run run' performed more spent spans fuel 1

end
end
end Interpreter.Transport

namespace Interpreter.Mirroring
variable [Framable H S] [Framable H T] (mirroring : Mirroring @R)
include mirroring

theorem ensuring {ε α : Type} {body : S ε α} {body' : T ε α} (event : Except ε α → Event H)
    (same : R body body') :
    R (Steps.ensuring body fun result => Act.record (event result))
      (Steps.ensuring body' fun result => Act.record (event result)) :=
  mirroring.bind (mirroring.attempt same) fun result =>
    mirroring.bind (mirroring.record (event result)) fun _ => mirroring.plain (.ofExcept result)

theorem inLevel (action : Action) {body : S PlacedError Unit} {body' : T PlacedError Unit}
    (same : R body body') : R (Interpreter.inLevel action body) (Interpreter.inLevel action body') :=
  mirroring.bind (mirroring.record _) fun _ => mirroring.ensuring _ (mirroring.mapError _ same)

theorem transport (interpreter : Interpreter H) (action : Action) :
    Transport interpreter action @R where
  toSequencing := mirroring.toSequencing
  act single := mirroring.plain single.plain
  target _ same := mirroring.within _ _ _ same
  element _ _ same := mirroring.within _ _ _ same
  execution _ same := mirroring.bind (mirroring.plain .frame) fun _ =>
    mirroring.bind (mirroring.record _) fun _ => mirroring.ensuring _ same

theorem runIn (more : Nat) (spent : ∀ {ε α : Type} (step : T ε α),
      (more = 0 → step = Steps.outOfFuel) → R (Steps.outOfFuel : S ε α) step)
    {interpreter : Interpreter H} {asks : Call H → Prop}
    (answers : ∀ spans call, asks call →
      R (Steps.ofAct ({ interpreter with spans }.answer call) : S ActionError _)
        (Steps.ofAct ({ interpreter with spans }.answer call)))
    (uses : ∀ action overridden? handler, interpreter.handlerFor action.name = some handler →
      (handler (interpreter.dispatch action overridden?)).Uses asks)
    (fuel : Nat) (spans : List Span) (action : Action) :
    R (Interpreter.runIn fuel { interpreter with spans } action : S ActionError Unit)
      (Interpreter.runIn (fuel + more) { interpreter with spans } action) := by
  -- On the fuel, of which a handler has one less for the actions it runs. They run inside the
  -- spans of its pass, so that the spans have to vary.
  induction fuel generalizing spans action with
  | zero =>
    rw [Nat.zero_add]
    exact spent _ fun none => none ▸ rfl
  | succ fuel ih =>
    rw [Nat.add_right_comm]
    refine mirroring.inLevel action (mirroring.within _ _ _ ?_)
    rw [Nat.add_right_comm]
    refine (mirroring.transport interpreter action).grounded _ _ ?_ more spent spans (fuel + 1)
    intro spans overridden? handler found
    exact mirroring.perform _ _ (answers spans) (fun nested _ => ih spans nested)
      (uses action overridden? handler found) (Program.runsAny (fun _ => trivial) _)

end Interpreter.Mirroring
end ActionTree

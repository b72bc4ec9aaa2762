import ActionTree.Proofs.Asking
import ActionTree.Proofs.Tracing
import ActionTree.Proofs.Upholding

/-! Names in scope. A request carries the names and the place of the action that it is made for,
the variables of the frame that the outermost action began in, and the model of the nearest of the
running actions that names one. -/
namespace ActionTree
open Binding (Stack Frame Spec)
variable {H : Host}

def modelOn (outer? : Option String) (path : List Action) : Option String :=
  (path.reverse.findSome? Action.model?).or outer?

theorem modelOnAppend (outer? : Option String) (path : List Action) (action : Action) :
    modelOn outer? (path ++ [action]) = action.model?.or (modelOn outer? path) := by
  unfold modelOn
  rw [List.reverse_append, List.reverse_singleton, List.singleton_append, List.findSome?_cons]
  cases action.model? <;> rfl

def Call.subject? : Call H → Option Action
  | .items action _ _ => some action
  | .text action _ _ => some action
  | .template action _ => some action
  | .guard action _ _ _ => some action
  | .find action _ => some action
  | .deferredUpdates action => some action
  | _ => none

structure Request.Carries {Item : Type} (handlerId : String) (initial : Frame Item) (path : List Action)
    (subject : Action) (request : Request Item) : Prop where
  namespaces : request.namespaces = subject.namespaces
  location : request.location? = subject.location?
  source : request.sourceId = EffectiveId.related handlerId subject.staticId
  «variables» : request.variables = initial.variables
  model : request.modelId? = modelOn initial.modelId? path

/-- Why there is a request while an action runs, inside the actions above it. -/
inductive Issued (handlerId : String) (asks : Action → Call H → Prop) (initial : Frame H.Item)
    (above : List Action) (action : Action) : Purpose → Request H.Item → Prop where
  | own {purpose request} (bound : purpose = .binding ∨ purpose = .guard)
      (carries : request.Carries handlerId initial (above ++ [action]) action) :
      Issued handlerId asks initial above action purpose request
  | asked {purpose request call subject} (asked : asks action call)
      (about : call.subject? = some subject) (called : purpose ≠ .binding)
      (carries : request.Carries handlerId initial (above ++ [action]) subject) :
      Issued handlerId asks initial above action purpose request
  /-- A handler may also bring a whole request along, which then is its own. -/
  | brought {mode request} (asked : asks action (.evaluate mode request)) :
      Issued handlerId asks initial above action .handler request

/-- A frame with the names that are in scope for the last of the running actions. -/
structure Fits (initial : Frame H.Item) (path : List Action) (frame : Frame H.Item) : Prop where
  «variables» : frame.variables = initial.variables
  model : frame.modelId? = modelOn initial.modelId? path

theorem Fits.carries {interpreter : Interpreter H} {initial frame : Frame H.Item} {path : List Action}
    (fits : Fits initial path frame) (subject : Action) (focus : Focus H.Item) (expression : String) :
    (interpreter.request subject frame focus expression).Carries
      interpreter.invocation.handlerId initial path subject :=
  ⟨rfl, rfl, rfl, fits.variables, fits.model⟩

theorem Call.Requests.issued {interpreter : Interpreter H} {asks : Action → Call H → Prop}
    {initial frame : Frame H.Item} {above : List Action} {action : Action} {call : Call H}
    {purpose : Purpose} {request : Request H.Item}
    (requested : call.Requests interpreter frame purpose request) (asked : asks action call)
    (fits : Fits initial (above ++ [action]) frame) :
    Issued interpreter.invocation.handlerId asks initial above action purpose request := by
  cases requested with
  | items => exact .asked asked rfl nofun (fits.carries _ _ _)
  | text => exact .asked asked rfl nofun (fits.carries _ _ _)
  | evaluate => exact .brought asked
  | template _ => exact .asked asked rfl nofun (fits.carries _ _ _)
  | find _ => exact .asked asked rfl nofun (fits.carries _ _ _)
  | deferredUpdates _ => exact .asked asked rfl nofun (fits.carries _ _ _)
  | guard => exact .asked asked rfl nofun (fits.carries _ _ _)

/-- Holds of each event together with the actions that are running when it happens. -/
def Along (P : List Action → Event H → Prop) : (running : List Action) → List (Event H) → Prop
  | _, [] => True
  | running, event :: rest => P running event ∧ Along P (event.track running) rest

namespace Along
variable {P : List Action → Event H → Prop} {running : List Action} {events : List (Event H)}

theorem append {before after : List (Event H)} (first : Along P running before)
    (second : Along P (before.foldl Event.track running) after) : Along P running (before ++ after) := by
  induction before generalizing running with
  | nil => exact second
  | cons event rest ih => exact ⟨first.1, ih first.2 second⟩

theorem here {before after : List (Event H)} {event : Event H}
    (along : Along P running (before ++ event :: after)) :
    P (before.foldl Event.track running) event := by
  induction before generalizing running with
  | nil => exact along.1
  | cons other rest ih => exact ih along.2

theorem steady (still : ∀ event ∈ events, event.track running = running)
    (holds : ∀ event ∈ events, P running event) :
    Along P running events ∧ events.foldl Event.track running = running := by
  induction events with
  | nil => exact ⟨trivial, rfl⟩
  | cons event rest ih =>
    obtain ⟨along, back⟩ := ih (fun other member => still other (by simp [member]))
      fun other member => holds other (by simp [member])
    have first := still event (by simp)
    refine ⟨⟨holds event (by simp), first.symm ▸ along⟩, ?_⟩
    rw [List.foldl_cons, first, back]

theorem closing (last : Machine H → List (Event H)) {after? : Option (Machine H)}
    {outside : List Action} (along : Along P running events)
    (back : ∀ after, after? = some after → events.foldl Event.track running = running)
    (closes : ∀ after, Along P running (last after) ∧
      (last after).foldl Event.track running = outside) :
    Along P running (events ++ ActionTree.closing last after?) ∧ ∀ after, after? = some after →
      (events ++ ActionTree.closing last after?).foldl Event.track running = outside := by
  cases after? with
  | none => exact ⟨by simpa [ActionTree.closing] using along, nofun⟩
  | some machine =>
    have same := back machine rfl
    obtain ⟨closed, regained⟩ := closes machine
    refine ⟨along.append (same.symm ▸ closed), fun _ _ => ?_⟩
    rw [List.foldl_append, same]
    exact regained

end Along

/-- What happens while these actions run, in the frame of the first ones among them. -/
def Tells (P : List Action → Event H → Prop) (initial : Frame H.Item) (framed path : List Action)
    (machine : Machine H) (events : List (Event H)) (after? : Option (Machine H)) : Prop :=
  Fits initial framed machine.stack.current → Along P path events ∧
    ∀ after, after? = some after →
      after.stack = machine.stack ∧ events.foldl Event.track path = path

theorem tellsProgressing {P : List Action → Event H → Prop} {initial : Frame H.Item}
    {framed path : List Action} : Progressing (Tells P initial framed path) where
  still machine _ := ⟨trivial, by rintro _ ⟨⟩; exact ⟨rfl, rfl⟩⟩
  spent machine _ := ⟨trivial, nofun⟩
  join {first second third? before after} head tail fits := by
    obtain ⟨along, ended⟩ := head fits
    obtain ⟨same, back⟩ := ended second rfl
    obtain ⟨along', ended'⟩ := tail (same.symm ▸ fits)
    refine ⟨along.append (back.symm ▸ along'), fun third finished => ?_⟩
    obtain ⟨same', back'⟩ := ended' third finished
    exact ⟨same'.trans same, by rw [List.foldl_append, back, back']⟩

theorem tellsSteady {P : List Action → Event H → Prop} {initial : Frame H.Item}
    {framed path : List Action} {machine after : Machine H} {events : List (Event H)}
    (same : after.stack = machine.stack) (still : ∀ event ∈ events, event.track path = path)
    (holds : Fits initial framed machine.stack.current → ∀ event ∈ events, P path event) :
    Tells P initial framed path machine events (some after) := by
  intro fits
  obtain ⟨along, back⟩ := Along.steady still (holds fits)
  refine ⟨along, ?_⟩
  rintro _ ⟨⟩
  exact ⟨same, back⟩

theorem tellsFraming {P : List Action → Event H → Prop} {initial frame : Frame H.Item}
    {framed path : List Action} {machine inside : Machine H} {opening events : List (Event H)}
    {after? : Option (Machine H)} (spans : List Span)
    (pushed : inside.stack = machine.stack.push frame)
    (opened : Fits initial framed machine.stack.current → Fits initial path frame ∧
      ∀ event ∈ opening, event.track path = path ∧ P path event)
    (popping : ∀ stack : Stack H.Item, ∀ event ∈ Binding.poppings .interpreter spans stack, P path event)
    (told : Tells P initial path path inside events after?) :
    Tells P initial framed path machine (opening ++ (events ++
      closing (fun after => Binding.poppings .interpreter spans after.stack) after?))
      (after?.map popped) := by
  intro fits
  obtain ⟨fits', each⟩ := opened fits
  obtain ⟨along, ended⟩ := told (by rw [pushed]; exact fits')
  obtain ⟨before, back⟩ := Along.steady (fun event member => (each event member).1)
    fun event member => (each event member).2
  have still (stack : Stack H.Item) : ∀ event ∈ Binding.poppings .interpreter spans stack,
      event.track path = path := by
    unfold Binding.poppings
    split <;> simp [Event.track]
  obtain ⟨whole, regained⟩ := Along.closing (fun after => Binding.poppings .interpreter spans after.stack)
    along (fun after finished => (ended after finished).2)
    fun after => Along.steady (still after.stack) (popping after.stack)
  refine ⟨before.append (back.symm ▸ whole), fun last finished => ?_⟩
  obtain ⟨after, finished', rfl⟩ := Option.map_eq_some_iff.mp finished
  refine ⟨?_, by rw [List.foldl_append, back, regained after finished']⟩
  change after.stack.pop = machine.stack
  rw [(ended after finished').1, pushed]
  exact Stack.popPush machine.stack frame

namespace Interpreter
variable (interpreter : Interpreter H) (asks : Action → Call H → Prop)
  (runs : Action → Action → Prop) (outermost : Action) (initial : Frame H.Item)

def Accounts (path : List Action) : Event H → Prop
  | .evaluated purpose _ request _ => ∃ above action, path = above ++ [action] ∧
      RunPath runs outermost above action ∧
        Issued interpreter.invocation.handlerId asks initial above action purpose request
  | _ => True

variable {interpreter asks runs outermost initial} {above : List Action} {action : Action}

theorem accountsPopping (path : List Action) (spans : List Span) (stack : Stack H.Item) :
    ∀ event ∈ Binding.poppings .interpreter spans stack,
      interpreter.Accounts asks runs outermost initial path event := by
  unfold Binding.poppings
  split <;> simp [Accounts]

section
variable (reached : RunPath runs outermost above action)
include reached

theorem askingTells {ε α : Type} {Q : Frame H.Item → Purpose → Request H.Item → Prop}
    {act : Act H ε α} (asking : act.Keeps (Asking Q))
    (issued : ∀ frame purpose request, Fits initial (above ++ [action]) frame →
      Q frame purpose request →
        Issued interpreter.invocation.handlerId asks initial above action purpose request) :
    act.Keeps fun before events after => Tells (interpreter.Accounts asks runs outermost initial)
      initial (above ++ [action]) (above ++ [action]) before events (some after) := by
  intro machine
  obtain ⟨⟨same, quiet⟩, requests⟩ := asking machine
  refine tellsSteady same (fun event member => (quiet event member).single.still _)
    fun fits event member => ?_
  cases event with
  | evaluated purpose mode request answer =>
    exact ⟨above, action, rfl, reached, issued _ _ _ fits (requests _ _ _ _ member)⟩
  | _ => trivial

theorem specFraming {spec : Spec} {framed : List Action} (names : spec.namespaces = action.namespaces)
    (place : spec.location? = action.location?) (source : spec.sourceId = interpreter.sourceId action)
    (model : ∀ frame : Frame H.Item, Fits initial framed frame →
      spec.modelOver frame = modelOn initial.modelId? (above ++ [action])) :
    Framing (Tells (interpreter.Accounts asks runs outermost initial) initial framed (above ++ [action]))
      (Tells (interpreter.Accounts asks runs outermost initial) initial (above ++ [action])
        (above ++ [action])) (Binding.push interpreter.evaluator .interpreter spec) := by
  have opening (machine : Machine H) (result : Except BindingError (Frame H.Item)) (depth : Nat)
      {events : List (Event H)} (requests : spec.Requests machine.stack events)
      (fits : Fits initial framed machine.stack.current) :
      ∀ event ∈ events ++ [.pushed .interpreter spec result depth],
        event.track (above ++ [action]) = above ++ [action] ∧
          interpreter.Accounts asks runs outermost initial (above ++ [action]) event := by
    intro event member
    rcases List.mem_append.mp member with early | last
    · obtain ⟨focus, expression, answer, _, rfl⟩ := requests event early
      exact ⟨rfl, above, action, rfl, reached,
        .own (.inl rfl) ⟨names, place, source, fits.variables, model _ fits⟩⟩
    · cases List.mem_singleton.mp last
      exact ⟨rfl, trivial⟩
  constructor
  · intro machine error failed
    obtain ⟨state, result, events, derivation, quiet, same⟩ :=
      Binding.pushSound interpreter.evaluator .interpreter spec machine
    rw [same] at failed ⊢
    cases result with
    | ok frame => cases failed
    | error error =>
      intro fits
      have each := opening machine (.error error) machine.stack.depth derivation.requests fits
      exact tellsSteady rfl (fun event member => (each event member).1)
        (fun _ event member => (each event member).2) fits
  · intro machine events after? spans entered inside
    obtain ⟨state, result, events', derivation, quiet, same⟩ :=
      Binding.pushSound interpreter.evaluator .interpreter spec machine
    rw [same] at entered inside ⊢
    cases result with
    | error error => cases entered
    | ok frame =>
      refine tellsFraming spans rfl (fun fits => ⟨?_, ?_⟩) (accountsPopping _ spans) inside
      · obtain ⟨kept, model'⟩ := derivation.scope
        exact ⟨kept.trans fits.variables, model'.trans (model _ fits)⟩
      · exact opening machine (.ok frame) _ derivation.requests fits

end

theorem elementFraming (path : List Action) (index : Nat) :
    Framing (Tells (interpreter.Accounts asks runs outermost initial) initial path path)
      (Tells (interpreter.Accounts asks runs outermost initial) initial path path)
      (Binding.pushElement .interpreter index) := by
  constructor
  · intro machine error failed
    rw [Binding.pushElementEq] at failed ⊢
    cases found : machine.stack.elementFrame index with
    | ok frame => simp [found, Except.map] at failed
    | error error => exact tellsSteady rfl (by simp [Event.track]) (by simp [Accounts])
  · intro machine events after? spans entered inside
    rw [Binding.pushElementEq] at entered inside ⊢
    cases found : machine.stack.elementFrame index with
    | error error => simp [found, Except.map] at entered
    | ok frame =>
      rw [found] at inside
      refine tellsFraming spans rfl (fun fits => ⟨?_, by simp [Event.track, Accounts]⟩)
        (accountsPopping path spans) inside
      unfold Stack.elementFrame at found
      dsimp only at found
      split at found
      · cases found
        exact ⟨fits.variables, fits.model⟩
      · cases found

theorem tellsUpholding (outermost : Action) (initial : Frame H.Item)
    (stays : ∀ action call, asks action call → ¬ call.MovesStack) :
    Upholding interpreter asks runs outermost
      (fun path => Tells (interpreter.Accounts asks runs outermost initial) initial path.dropLast path)
      (fun path => Tells (interpreter.Accounts asks runs outermost initial) initial path path) where
  progressing _ := tellsProgressing
  logged _ _ _ _ := tellsSteady rfl (by simp [Event.track]) (by simp [Accounts])
  lookedUp _ _ _ _ := tellsSteady rfl (by simp [Event.track]) (by simp [Accounts])
  admits {above action} spans item? guard reached := by
    refine askingTells reached ({ interpreter with spans }.admitsAsks action item? guard) ?_
    rintro frame purpose request fits ⟨item, expression, _, _, rfl, rfl⟩
    exact .own (.inr rfl) (fits.carries action _ _)
  answer {above action call} spans reached asked := by
    refine askingTells reached ({ interpreter with spans }.answerAsks (stays action call asked)) ?_
    intro frame purpose request fits requested
    exact requested.issued asked fits
  ground {above action} reached := by
    rw [List.dropLast_concat]
    refine specFraming reached rfl rfl rfl fun frame fits => ?_
    rw [modelOnAppend, ← fits.model]
    rfl
  target {above action} reached := specFraming reached rfl rfl rfl fun frame fits => fits.model
  element := elementFraming
  execution {path machine events after?} action overridden? result inside := by
    intro fits
    obtain ⟨along, ended⟩ := inside fits
    obtain ⟨whole, regained⟩ := Along.closing (fun _ => [.returned action result]) along
      (fun after finished => (ended after finished).2) fun _ => ⟨⟨trivial, trivial⟩, rfl⟩
    exact ⟨⟨trivial, whole⟩, fun after finished => ⟨(ended after finished).1, regained after finished⟩⟩
  level {above action machine events after?} result reached inside := by
    intro fits
    obtain ⟨along, ended⟩ := inside (by rwa [List.dropLast_concat])
    obtain ⟨whole, regained⟩ := Along.closing (fun _ => [.left action result]) along
      (fun after finished => (ended after finished).2)
      fun _ => ⟨⟨trivial, trivial⟩, List.dropLast_concat⟩
    exact ⟨⟨trivial, whole⟩, fun after finished => ⟨(ended after finished).1, regained after finished⟩⟩

/-- Each request of a run, of one that goes on too, is made while some action runs. It carries what
belongs to that action, or to the one that the handler asks about, and what is in scope there. -/
theorem requestsScoped (handlers : interpreter.HandlersKeepTo asks runs)
    (stays : ∀ action call, asks action call → ¬ call.MovesStack) (fuel : Nat) (action : Action)
    (machine : Machine H) :
    interpreter.runAction fuel action machine = (runWatched fuel interpreter action machine).outcome? ∧
      ∀ before purpose mode request answer after,
        (runWatched fuel interpreter action machine).events =
          before ++ .evaluated purpose mode request answer :: after →
        ∃ above innermost, runningAfter before = above ++ [innermost] ∧
          RunPath runs action above innermost ∧
            Issued interpreter.invocation.handlerId asks machine.stack.current above innermost purpose
              request := by
  refine ⟨runSeen fuel interpreter action machine, ?_⟩
  intro before purpose mode request answer after split
  have told := runUpheld (tellsUpholding action machine.stack.current stays) handlers fuel
    interpreter.spans .outermost machine
  obtain ⟨along, _⟩ := told ⟨rfl, rfl⟩
  change Along _ [] (runWatched fuel interpreter action machine).events at along
  rw [split] at along
  exact along.here

end Interpreter

namespace Counting

def inModels : Action := action "block" [] [action "block" [("model", "m")]
  [action "watch" [("if", "yes")] []], action "watch" [("if", "yes")] []]

def among : Machine host := ⟨(0 : Nat), (Stack.ofRoot { (Frame.start [(7 : Nat)]).withVariable "x" [1]
  with modelId? := some "r" }).addModel "m" [5]⟩

def Event.scope? : Event host → Option (Option String × Option (List Nat))
  | .evaluated _ _ request _ => some (request.modelId?, request.variables.get? "x")
  | _ => none

end Counting

theorem Interpreter.requestsScopedInModels : ∃ outcome,
    Counting.interpreter.runAction 4 Counting.inModels Counting.among = some outcome ∧
      outcome.events.filterMap Counting.Event.scope? = [(some "m", some [1]), (some "r", some [1])] ∧
      ∀ before purpose mode request answer after,
        outcome.events = before ++ .evaluated purpose mode request answer :: after →
        ∃ above innermost, runningAfter before = above ++ [innermost] ∧
          RunPath (fun action nested => nested ∈ action.children) Counting.inModels above innermost ∧
            Issued "" (fun _ call => call = .state) Counting.among.stack.current above innermost purpose
              request := by
  have scopes : (Counting.interpreter.runAction 4 Counting.inModels Counting.among).map
      (fun outcome => outcome.events.filterMap Counting.Event.scope?) =
        some [(some "m", some [1]), (some "r", some [1])] := by decide +kernel
  obtain ⟨outcome, ended, here⟩ := Option.map_eq_some_iff.mp scopes
  have keep : Counting.interpreter.HandlersKeepTo (fun _ call => call = .state)
      fun action nested => nested ∈ action.children :=
    Counting.handlersKeepTo (fun _ => rfl) fun _ _ member => member
  obtain ⟨same, issued⟩ := requestsScoped keep (by rintro _ _ rfl moves; exact moves) 4
    Counting.inModels Counting.among
  rw [Progress.outcomeEvents (same.symm.trans ended)] at issued
  exact ⟨outcome, ended, here, issued⟩

end ActionTree

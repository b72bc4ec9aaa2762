import ActionTree.Proofs.Course

/-! Where the course of an action breaks off. Before the break nothing of the action has failed;
after it, frames are taken off the stack and nothing else is done. -/
namespace ActionTree
open Binding (Stack Frame Spec Derivation Selection Narrowing Settling)
variable {H : Host}

/-- Is part of a course that goes on. -/
inductive Event.Calm : Event H → Prop where
  | decided {request value} {items : List H.Item} (truth : items.head?.bind H.truth? = some value) :
      Calm (.evaluated .guard .items request (.ok items))
  | selected {request items} : Calm (.evaluated .binding .items request (.ok items))
  | pushed {spec frame depth} : Calm (.pushed .interpreter spec (.ok frame) depth)
  | iterated {index frame depth} : Calm (.iterated .interpreter index (.ok frame) depth)
  | popped {depth} : Calm (.popped .interpreter depth)
  | lookedUp {name} : Calm (.lookedUp name true)
  | logged {entry spans} : Calm (.logged entry spans)

inductive Event.Unwinds : Event H → Prop where
  | popped {depth} : Unwinds (.popped .interpreter depth)
  | ignored {spans} : Unwinds (.logged .rootPopIgnored spans)

theorem Event.Unwinds.calm {event : Event H} (unwinds : event.Unwinds) : event.Calm := by
  cases unwinds with
  | popped => exact .popped
  | ignored => exact .logged

theorem Binding.poppingsUnwind (spans : List Span) (stack : Stack H.Item) :
    ∀ event ∈ Binding.poppings .interpreter spans stack, event.Unwinds := by
  unfold Binding.poppings
  split
  · exact List.forall_mem_cons.mpr ⟨.ignored, List.forall_mem_singleton.mpr .popped⟩
  · exact List.forall_mem_singleton.mpr .popped

namespace Binding

/-- Evaluations of a request, the last of which may have failed. -/
inductive Asked {α : Type} : Except BindingError α → List (Event H) → Prop where
  | answered {value events} (calm : ∀ event ∈ events, event.Calm) : Asked (.ok value) events
  | refused {error events} (calm : ∀ event ∈ events, event.Calm) : Asked (.error error) events
  | unanswered {request error events} (calm : ∀ event ∈ events, event.Calm) :
      Asked (.error (.evaluation error))
        (events ++ [.evaluated .binding .items request (.error error)])

section
variable {α β : Type} {stack : Stack H.Item} {spec : Spec} {modelId? : Option String}

theorem Asked.map {result : Except BindingError α} {events : List (Event H)}
    (asked : Asked result events) (change : α → β) : Asked (result.map change) events := by
  cases asked with
  | answered calm => exact .answered calm
  | refused calm => exact .refused calm
  | unanswered calm => exact .unanswered calm

theorem Asked.after {result : Except BindingError α} {before events : List (Event H)}
    (calm : ∀ event ∈ before, event.Calm) (asked : Asked result events) :
    Asked result (before ++ events) := by
  cases asked with
  | answered others => exact .answered (List.forall_mem_append.mpr ⟨calm, others⟩)
  | refused others => exact .refused (List.forall_mem_append.mpr ⟨calm, others⟩)
  | unanswered others =>
    rw [← List.append_assoc]
    exact .unanswered (List.forall_mem_append.mpr ⟨calm, others⟩)

theorem Asked.calm {value : α} {events : List (Event H)}
    (asked : Asked (.ok value : Except BindingError α) events) : ∀ event ∈ events, event.Calm := by
  cases asked with
  | answered calm => exact calm

theorem Asked.failed {error : BindingError} {events : List (Event H)}
    (asked : Asked (.error error : Except BindingError α) events) :
    Asked (.error error : Except BindingError β) events := by
  cases asked with
  | refused calm => exact .refused calm
  | unanswered calm => exact .unanswered calm

theorem Selection.asked {focus : Focus H.Item} {expression : String}
    {result : Except BindingError (List H.Item)} {events : List (Event H)}
    (selection : Selection stack spec modelId? focus expression result events) :
    Asked result events := by
  cases selection with
  | skipped outside => exact .answered (List.forall_mem_nil _)
  | evaluated inside answer =>
    cases answer with
    | error error => exact .unanswered (List.forall_mem_nil _)
    | ok items => exact .answered (List.forall_mem_singleton.mpr .selected)

theorem Narrowing.asked {base : Focus H.Item} {result : Except BindingError (Focus H.Item)}
    {events : List (Event H)} (narrowed : Narrowing stack spec modelId? base result events) :
    Asked result events := by
  cases narrowed with
  | kept absent => exact .answered (List.forall_mem_nil _)
  | selected present selection => exact selection.asked.map _

theorem Settling.asked {context : Focus H.Item} {result : Except BindingError (Focus H.Item)}
    {events : List (Event H)} (settled : Settling stack spec modelId? context result events) :
    Asked result events := by
  cases settled with
  | undeclared present unknown => exact .refused (List.forall_mem_nil _)
  | bound present declared selection => exact selection.asked.map _
  | selected unbound present selection => exact selection.asked.map _
  | kept unbound absent => exact .answered (List.forall_mem_nil _)

theorem Derivation.asked {result : Except BindingError (Frame H.Item)} {events : List (Event H)}
    (derivation : Derivation stack spec result events) : Asked result events := by
  cases derivation with
  | ungrounded unknown => exact .refused (List.forall_mem_nil _)
  | unnarrowed grounded narrowed => exact narrowed.asked.failed
  | unsettled grounded narrowed settled => exact settled.asked.failed.after narrowed.asked.calm
  | derived grounded narrowed settled =>
    exact .answered (List.forall_mem_append.mpr ⟨narrowed.asked.calm, settled.asked.calm⟩)

end
end Binding
namespace Course

/-- What can be put together along a course, whichever kind of error it may end with. -/
structure Composes (Told : {ε α : Type} → (ε → ActionError) → Except ε α → List (Event H) → Prop) :
    Prop where
  nil {ε : Type} {cause : ε → ActionError} : Told cause (.ok ()) []
  failed {ε ε' α β : Type} {cause : ε → ActionError} {cause' : ε' → ActionError} {error : ε}
    {error' : ε'} {events : List (Event H)} (told : Told cause (.error error : Except ε α) events)
    (same : cause' error' = cause error) : Told cause' (.error error' : Except ε' β) events
  well {ε ε' α β : Type} {cause : ε → ActionError} {cause' : ε' → ActionError} {value : α}
    {events : List (Event H)} (value' : β) (told : Told cause (.ok value : Except ε α) events) :
    Told cause' (.ok value' : Except ε' β) events
  after {ε ε' α β : Type} {cause : ε → ActionError} {cause' : ε' → ActionError} {value : α}
    {result : Except ε' β} {before events : List (Event H)}
    (first : Told cause (.ok value : Except ε α) before) (next : Told cause' result events) :
    Told cause' result (before ++ events)
  closed {ε α : Type} {cause : ε → ActionError} {result : Except ε α} {events after : List (Event H)}
    (told : Told cause result events) (unwinding : ∀ event ∈ after, event.Unwinds) :
    Told cause result (events ++ after)

namespace Composes
variable {Told : {ε α : Type} → (ε → ActionError) → Except ε α → List (Event H) → Prop}
  {interpreter : Interpreter H} {action : Action}
  {execution : List Span → Program H Unit → Except ActionError Unit → List (Event H) → Prop}
  {ε : Type} {cause : ε → ActionError}

theorem framed (composes : Composes Told)
    {opens : Except BindingError (Frame H.Item) → List (Event H) → Prop} {change : BindingError → ε}
    {inside : Frame H.Item → Except ε Unit → List (Event H) → Prop}
    {result : Except ε Unit} {events : List (Event H)}
    (same : ∀ error, cause (change error) = .binding error)
    (opening : ∀ {result events}, opens result events → Told ActionError.binding result events)
    (body : ∀ {frame result events}, inside frame result events → Told cause result events)
    (framed : Framed interpreter opens change inside result events) : Told cause result events := by
  cases framed with
  | refused refused => exact composes.failed (opening refused) (same _)
  | framed stack opened inner =>
    exact composes.after (opening opened)
      (composes.closed (body inner) (Binding.poppingsUnwind _ stack))

theorem inTurn (composes : Composes Told) {ι : Type}
    {part : ι → Except ε Unit → List (Event H) → Prop} {whole : List ι} {result : Except ε Unit}
    {events : List (Event H)}
    (each : ∀ {first result events}, part first result events → Told cause result events)
    (turn : InTurn part whole result events) : Told cause result events := by
  induction turn with
  | none => exact composes.nil
  | failed failed => exact each failed
  | next went _ ih => exact composes.after (each went) ih

theorem clearance (composes : Composes Told) {stack : Stack H.Item} {item? : Option H.Item}
    (check : ∀ {guard result events}, Level.Check interpreter action stack item? guard result events →
      Told id result events) {result : Except ActionError Bool} {events : List (Event H)}
    (clearance : Level.Clearance interpreter action stack item? result events) :
    Told id result events := by
  cases clearance with
  | first unmet checked => exact check checked
  | both checked next => exact composes.after (check checked) (check next)

section
variable (composes : Composes Told)
  (check : ∀ {stack item? guard result events},
    Level.Check interpreter action stack item? guard result events → Told id result events)
  (executed : ∀ {pass? overridden? result events}, Executed (Level.within interpreter action pass?)
    action execution overridden? result events → Told id result events)
include composes check executed

theorem passed {item? overridden? : Option H.Item} {pass? : Option Nat}
    {result : Except ActionError Bool} {events : List (Event H)}
    (passed : Passed interpreter action execution item? overridden? pass? result events) :
    Told id result events := by
  cases passed with
  | unclear clearance => exact composes.clearance check clearance
  | held clearance => exact composes.clearance check clearance
  | failed clearance ran =>
    exact composes.after (composes.clearance check clearance) (composes.failed (executed ran) rfl)
  | executed clearance ran =>
    exact composes.after (composes.clearance check clearance) (composes.well true (executed ran))

theorem repeated {item? overridden? : Option H.Item} {pass : Nat}
    {result : Except Interpreter.PlacedError Unit} {events : List (Event H)}
    (repeated : Repeated interpreter action execution item? overridden? pass result events) :
    Told Prod.snd result events := by
  induction repeated with
  | failed last => exact composes.failed (composes.passed check executed last) rfl
  | held last => exact composes.well () (composes.passed check executed last)
  | once once last => exact composes.well () (composes.passed check executed last)
  | again repeats first rest ih => exact composes.after (composes.passed check executed first) ih

theorem element (indexed : ∀ {index result events}, Indexed index result events →
      Told ActionError.binding result events)
    {element : H.Item × Nat} {result : Except Interpreter.PlacedError Unit} {events : List (Event H)}
    (ran : Element interpreter action execution element result events) :
    Told Prod.snd result events := by
  cases ran with
  | @element item index inner events framed =>
    have told : Told Prod.snd inner events :=
      composes.framed (fun _ => rfl) indexed (composes.repeated check executed) framed
    cases inner with
    | error error => exact composes.failed told rfl
    | ok value => exact told

theorem body (indexed : ∀ {index result events}, Indexed index result events →
      Told ActionError.binding result events)
    (ground : ∀ {result events}, Requested (interpreter.groundSpec action) result events →
      Told ActionError.binding result events)
    {result : Except Interpreter.PlacedError Unit} {events : List (Event H)}
    (body : Body interpreter action execution result events) : Told Prod.snd result events := by
  refine composes.framed (fun _ => rfl) ground ?_ body
  intro frame result events content
  cases content with
  | single plain passes => exact composes.repeated check executed passes
  | several iterates elements => exact composes.inTurn (composes.element check executed indexed) elements

end
end Composes

section
variable (action : Action) (execution : Except ActionError Unit → List (Event H) → Prop)

/-- Events of a course without a break. Executions of the handler stand as wholes among them. -/
inductive Smooth : List (Event H) → Prop where
  | nil : Smooth []
  | calm {event rest} (calm : event.Calm) (more : Smooth rest) : Smooth (event :: rest)
  | executed {overridden? frame events rest} (executed : execution (.ok ()) events)
      (more : Smooth rest) :
      Smooth (.dispatched action overridden? frame :: (events ++ .returned action (.ok ()) :: rest))

/-- The events of a break, and what went wrong. -/
inductive Break : ActionError → List (Event H) → Prop where
  | guard {request error} :
      Break (.evaluation error) [.evaluated .guard .items request (.error error)]
  | undecided {guard expression request} {items : List H.Item}
      (present : action.guard? guard = some expression)
      (undecided : items.head?.bind H.truth? = none) :
      Break (.notBoolean guard expression) [.evaluated .guard .items request (.ok items)]
  | unknown : Break (.unknownAction action.name) [.lookedUp action.name false]
  | unbound {spec error depth} :
      Break (.binding error) [.pushed .interpreter spec (.error error) depth]
  | unanswered {request spec error depth} : Break (.binding (.evaluation error))
      [.evaluated .binding .items request (.error error),
        .pushed .interpreter spec (.error (.evaluation error)) depth]
  | missing {index error depth} :
      Break (.binding error) [.iterated .interpreter index (.error error) depth]
  | executed {overridden? frame error events} (executed : execution (.error error) events) :
      Break error
        (.dispatched action overridden? frame :: (events ++ [.returned action (.error error)]))

/-- A course with its break, or without one when it ends well. -/
inductive Went {ε α : Type} (cause : ε → ActionError) : Except ε α → List (Event H) → Prop where
  | well {value events} (smooth : Smooth action execution events) : Went cause (.ok value) events
  | broken {error before broken after} (smooth : Smooth action execution before)
      (here : Break action execution (cause error) broken)
      (unwinding : ∀ event ∈ after, event.Unwinds) :
      Went cause (.error error) (before ++ (broken ++ after))

end
section
variable {interpreter : Interpreter H} {action : Action}
  {execution : Except ActionError Unit → List (Event H) → Prop} {ε ε' α β : Type}
  {cause : ε → ActionError}

theorem Smooth.append {before after : List (Event H)} (first : Smooth action execution before)
    (second : Smooth action execution after) : Smooth action execution (before ++ after) := by
  induction first with
  | nil => exact second
  | calm calm _ ih => exact .calm calm ih
  | executed executed _ ih => simpa using Smooth.executed executed ih

theorem Smooth.ofCalm {events : List (Event H)} (calm : ∀ event ∈ events, event.Calm) :
    Smooth action execution events := by
  induction events with
  | nil => exact .nil
  | cons event rest ih =>
    obtain ⟨here, later⟩ := List.forall_mem_cons.mp calm
    exact .calm here (ih later)

namespace Went

theorem smooth {value : α} {events : List (Event H)}
    (went : Went action execution cause (.ok value : Except ε α) events) :
    Smooth action execution events := by
  cases went with
  | well smooth => exact smooth

theorem here {error : ε} {events : List (Event H)} (here : Break action execution (cause error) events) :
    Went action execution cause (.error error : Except ε α) events := by
  have went : Went action execution cause (.error error : Except ε α) ([] ++ (events ++ [])) :=
    .broken .nil here (List.forall_mem_nil _)
  rwa [List.append_nil] at went

theorem after {result : Except ε α} {before events : List (Event H)}
    (smooth : Smooth action execution before) (went : Went action execution cause result events) :
    Went action execution cause result (before ++ events) := by
  cases went with
  | well others => exact .well (smooth.append others)
  | broken others here unwinding =>
    rw [← List.append_assoc]
    exact .broken (smooth.append others) here unwinding

theorem closed {result : Except ε α} {events after : List (Event H)}
    (went : Went action execution cause result events) (unwinding : ∀ event ∈ after, event.Unwinds) :
    Went action execution cause result (events ++ after) := by
  cases went with
  | well smooth =>
    exact .well (smooth.append (.ofCalm fun event member => (unwinding event member).calm))
  | broken smooth here others =>
    rw [List.append_assoc, List.append_assoc]
    exact .broken smooth here (List.forall_mem_append.mpr ⟨others, unwinding⟩)

theorem failed {cause' : ε' → ActionError} {error : ε} {error' : ε'} {events : List (Event H)}
    (went : Went action execution cause (.error error : Except ε α) events)
    (same : cause' error' = cause error) :
    Went action execution cause' (.error error' : Except ε' β) events := by
  cases went with
  | broken smooth here unwinding =>
    rw [← same] at here
    exact .broken smooth here unwinding

end Went

theorem wentComposes : Composes (Went (H := H) action execution) where
  nil := .well .nil
  failed := Went.failed
  well _ went := .well went.smooth
  after first next := next.after first.smooth
  closed := Went.closed

theorem checkWent {stack : Stack H.Item} {item? : Option H.Item} {guard : Guard}
    {result : Except ActionError Bool} {events : List (Event H)}
    (check : Level.Check interpreter action stack item? guard result events) :
    Went action execution id result events := by
  cases check with
  | absent absent => exact .well .nil
  | missing present missing => exact .well (.calm .logged .nil)
  | failed present here => exact .here .guard
  | undecided present here undecided => exact .here (.undecided present undecided)
  | holds present here truth => exact .well (.calm (.decided truth) .nil)
  | fails present here truth => exact .well (.calm (.decided truth) (.calm .logged .nil))

theorem requestedWent {spec : Spec} {result : Except BindingError (Frame H.Item)}
    {events : List (Event H)} (requested : Requested spec result events) :
    Went action execution ActionError.binding result events := by
  cases requested with
  | requested derivation =>
    cases derivation.asked with
    | answered calm => exact .well ((Smooth.ofCalm calm).append (.calm .pushed .nil))
    | refused calm => exact Went.after (.ofCalm calm) (.here .unbound)
    | unanswered calm =>
      rw [List.append_assoc]
      exact Went.after (.ofCalm calm) (.here .unanswered)

theorem indexedWent {index : Nat} {result : Except BindingError (Frame H.Item)}
    {events : List (Event H)} (indexed : Indexed index result events) :
    Went action execution ActionError.binding result events := by
  cases indexed with
  | indexed stack =>
    cases stack.elementFrame index with
    | error error => exact .here .missing
    | ok frame => exact .well (.calm .iterated .nil)

theorem handledWent {handler : Handler H} {overridden? : Option H.Item} {frame : Frame H.Item}
    {result : Except ActionError Unit} {events : List (Event H)}
    (handled : Handled interpreter action (fun _ _ => execution) handler overridden? frame
      result events) : Went action execution id result events := by
  cases handled with
  | handled executed =>
    cases result with
    | error error => exact .here (.executed executed)
    | ok value => exact .well (.executed executed .nil)

theorem executedWent {overridden? : Option H.Item} {result : Except ActionError Unit}
    {events : List (Event H)}
    (executed : Executed interpreter action (fun _ _ => execution) overridden? result events) :
    Went action execution id result events := by
  have opening : Smooth action execution (Level.opening interpreter action true) :=
    .calm .logged (.calm .lookedUp .nil)
  have handling {handler result events} (framed : Framed interpreter
      (Requested (interpreter.targetSpec action)) .binding
      (Handled interpreter action (fun _ _ => execution) handler overridden?) result events) :
      Went action execution id result events :=
    wentComposes.framed (fun _ => rfl) requestedWent handledWent framed
  cases executed with
  | unknown unknown => exact Went.after (.calm .logged .nil) (.here .unknown)
  | failed known framed => exact (handling framed).after opening
  | done known framed =>
    exact .well (opening.append ((handling framed).smooth.append (.calm .logged .nil)))

theorem bodyWent {result : Except Interpreter.PlacedError Unit} {events : List (Event H)}
    (body : Body interpreter action (fun _ _ => execution) result events) :
    Went action execution Prod.snd result events :=
  wentComposes.body checkWent executedWent indexedWent requestedWent body

end
end Course
end ActionTree

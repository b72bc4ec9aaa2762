import ActionTree.Interpreter.Running
import ActionTree.Script.Step

/-! Sessions with a scripted host: everything a run needs but the action to start from,
and the ways to drive the interpreter. -/
namespace ActionTree.Script

structure Session where
  rules : StringMap Rule
  component : Component
  settings : Settings
  handlers : Registry (Handler host)
  trigger : String
  observer : String
  handlerId : String

namespace Session

/-- Enough for every run that ends within a million nested actions and passes. -/
def fuel : Nat := 1000000

def interpreter (session : Session) (action : Action) : Interpreter host where
  container := session.component.container
  evaluator := evaluator session.rules
  handlerFor := session.handlers.lookup?
  settings := session.settings
  invocation := ⟨action, session.handlerId, session.trigger, session.observer⟩
  spans := []

def run (session : Session) (action : Action) : Run host ActionError Unit :=
  (session.interpreter action).runHandler fuel

/-- Carries out one command on an action, with `outer` as the outermost one. -/
def perform (session : Session) (outer action : Action) (command : Command) :
    Run host ActionError Value :=
  let interpreter := session.interpreter outer
  interpreter.perform (interpreter.runAction fuel)
    (command.program (interpreter.dispatch action none))

def bind (session : Session) (action : Action) (step : PushStep) : Act host ActionError Unit :=
  (Binding.push (evaluator session.rules) .handler (step.spec action)).mapError .binding

end Session
end ActionTree.Script

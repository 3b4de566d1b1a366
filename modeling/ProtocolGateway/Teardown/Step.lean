/-!
# Teardown steps

What has to be stopped at the end besides the servers: the telemetry agent, clients of other
services, and outputs of the log. Each is stopped in a step of its own kind.
-/

namespace ProtocolGateway

/-- The kinds of teardown steps. -/
inductive TeardownStep where
  | telemetry
  | auxiliary
  | logSink
deriving DecidableEq, Repr

/-- The word for a kind of step. -/
def TeardownStep.name : TeardownStep → String
  | .telemetry => "telemetry"
  | .auxiliary => "auxiliary"
  | .logSink => "log-sink"

/-- Something that is stopped at the end. -/
structure Hook where
  name : String
  /-- With which message stopping it fails, if it does. -/
  failure : Option String := none
  /-- Whether a rehearsal put it there. -/
  rehearsed : Bool := false
deriving DecidableEq, Repr

/-- A teardown step that failed. -/
structure StepFailure where
  step : TeardownStep
  hook : String
  error : String
deriving DecidableEq, Repr

/-- The failures of a list of hooks that are stopped in steps of one kind. -/
def failuresOf (step : TeardownStep) (hooks : List Hook) : List StepFailure :=
  hooks.filterMap fun h => h.failure.map fun error => ⟨step, h.name, error⟩

end ProtocolGateway

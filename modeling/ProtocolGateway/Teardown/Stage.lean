/-!
# Stages of a process

A process serves until it is told to stop, drains, and is then stopped.
-/

namespace ProtocolGateway

/-- Where a launched process is on its way to the end. -/
inductive Stage where
  | serving
  | draining
  | stopped
deriving DecidableEq, Repr

/-- The word for a stage. -/
def Stage.name : Stage → String
  | .serving => "serving"
  | .draining => "draining"
  | .stopped => "stopped"

end ProtocolGateway

/-!
# Built-in modules

The names of the modules that every process has, and what it tells about itself.
-/

namespace ProtocolGateway

/-- The modules that come with the gateway. -/
inductive BuiltIn where
  /-- Exposes the metrics. -/
  | telemetry
  /-- Answers health checks. -/
  | health
  /-- Answers questions on the process. -/
  | system
deriving DecidableEq, Repr

namespace BuiltIn

/-- All of them, in the order in which they are registered. -/
def all : List BuiltIn := [.telemetry, .health, .system]

/-- The name of a module. -/
def name : BuiltIn → String
  | .telemetry => "telemetry"
  | .health => "health"
  | .system => "system"

end BuiltIn

/-- The name of the program. -/
def programName : String := "service-gateway"

/-- The version of the program. -/
def programVersion : String := "0.1.0"

end ProtocolGateway

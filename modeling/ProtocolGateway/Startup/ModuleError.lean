import ProtocolGateway.SystemError

/-!
# Failures of modules

Why an operation of a module can fail, with the wording of each reason.
-/

namespace ProtocolGateway

/-- Why an operation of a module fails. -/
inductive ModuleError where
  /-- The settings do not suit the module. -/
  | settings (message : String)
  /-- Input or output failed. -/
  | io (message : String)
  /-- Something else failed in the course of something. -/
  | failed (doing : String) (cause : String)
  /-- Routes do not go together with the table. -/
  | routes (message : String)
  | other (message : String)
deriving DecidableEq, Repr

/-- The wording of a failure. -/
def ModuleError.message : ModuleError → String
  | .settings message => "invalid configuration: " ++ message
  | .io message => message
  | .failed doing cause => doing ++ ": " ++ cause
  | .routes message => "route registration rejected: " ++ message
  | .other message => message

/-- What comes of an operation of a module. -/
inductive Outcome where
  | done
  | failed (error : ModuleError)
  /-- The operation broke off the whole undertaking. -/
  | crashed
deriving DecidableEq, Repr

end ProtocolGateway

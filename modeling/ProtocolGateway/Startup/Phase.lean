/-!
# Phases

A module comes up in five phases. A phase ends for all modules before the next one begins for any.
-/

namespace ProtocolGateway

/-- The phases, in the order in which they are run. -/
inductive Phase where
  | preInit
  | init
  | postInit
  | load
  | start
deriving DecidableEq, Repr

namespace Phase

/-- All phases in their order. -/
def all : List Phase := [.preInit, .init, .postInit, .load, .start]

/-- The word for a phase. -/
def name : Phase → String
  | .preInit => "pre-init"
  | .init => "init"
  | .postInit => "post-init"
  | .load => "load"
  | .start => "start"

theorem mem_all (p : Phase) : p ∈ all := by cases p <;> decide

end Phase

end ProtocolGateway

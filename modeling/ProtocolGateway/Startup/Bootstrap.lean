import ProtocolGateway.Startup.Context

/-!
# Bootstrap

All modules are brought up phase by phase. The first operation that fails ends the bootstrap; what
was left in the context until then stays there. Modules that are registered meanwhile come after the
others and are not run.

## Main definitions

* `Bootable`: what modules can do.
* `Context.bootstrap`: brings the modules up.
-/

namespace ProtocolGateway

/-- What modules of a type can do. -/
class Bootable (M : Type) where
  /-- The name of a module. -/
  name : M → String
  /-- Runs the operation of a module for a phase. -/
  operate : Phase → M → Context M → M × Context M × Outcome

/-- Why a bootstrap failed. -/
structure BootstrapError where
  phase : Phase
  /-- The place of the module. -/
  index : Nat
  module : String
  cause : ModuleError
deriving DecidableEq, Repr

/-- The wording of a bootstrap error. -/
def BootstrapError.message (e : BootstrapError) : String :=
  e.phase.name ++ " failed in module #" ++ toString e.index ++ " (" ++ e.module ++ "): " ++
    e.cause.message

/-- What ends a bootstrap before its time. -/
inductive Halt where
  | failed (error : BootstrapError)
  | crashed
deriving DecidableEq, Repr

/-- The part of the program that brings it up. -/
def startupPart : String := "lifecycle::startup"

/-- What is logged of a bootstrap error. -/
def BootstrapError.event (e : BootstrapError) : Log.Event :=
  .of .error startupPart "Lifecycle phase failed"
    [("phase", .plain e.phase.name), ("index", .number e.index),
      ("module", .quoted e.module), ("error", .plain e.cause.message)]

namespace Context

variable {M : Type} [Bootable M]

/-- Runs the operation of a phase for a list of modules, the first of which has the place
`index`. -/
def runPhase (phase : Phase) (index : Nat) : List M → Context M → List M × Context M × Option Halt
  | [], c => ([], c, none)
  | m :: rest, c =>
    match Bootable.operate phase m (c.record (.operation phase index c.readiness)) with
    | (m, c, .failed cause) =>
      let error : BootstrapError := ⟨phase, index, Bootable.name m, cause⟩
      (m :: rest, c.logs error.event, some (.failed error))
    | (m, c, .crashed) => (m :: rest, c, some .crashed)
    | (m, c, .done) =>
      let (rest, c, halt) := runPhase phase (index + 1) rest c
      (m :: rest, c, halt)

/-- Runs phases one after another for all modules. -/
def runPhases : List Phase → List M → Context M → List M × Context M × Option Halt
  | [], modules, c => (modules, c, none)
  | phase :: phases, modules, c =>
    match runPhase phase 0 modules c with
    | (modules, c, none) => runPhases phases modules c
    | (modules, c, some halt) => (modules, c, some halt)

/-- Puts the modules back before those that were registered meanwhile. -/
def restore (modules : List M) (c : Context M) : Context M :=
  let c' := if c.modules.isEmpty then c
    else c.logs (.of .warn contextPart "Modules registered during bootstrap are not run"
      [("count", .number c.modules.length)])
  { c' with modules := modules ++ c.modules }

/-- Brings the modules up. After a crash they are lost. -/
def bootstrap (c : Context M) : Context M × Option Halt :=
  let (modules, c, halt) := runPhases Phase.all c.modules { c with modules := [] }
  if halt = some .crashed then (c, halt) else (c.restore modules, halt)

end Context

end ProtocolGateway

import ProtocolGateway.Metrics

/-!
# Readiness

A process starts, becomes ready to serve, and in the end drains. Draining is final: a process does
not become ready twice. The flag is shared by all its copies, and each change of it is logged and
written to a gauge.

## Main definitions

* `Readiness`: the state of a flag.
* `Readiness.set`: what a call does to the state, and what it shows.
* `ReadinessBoard`: several flags with the copies that share them.
-/

namespace ProtocolGateway

/-- The state of a process as its clients see it. -/
inductive Readiness where
  | starting
  | ready
  | draining
deriving DecidableEq, Repr

namespace Readiness

/-- The word for a state. -/
def name : Readiness → String
  | .starting => "starting"
  | .ready => "ready"
  | .draining => "draining"

/-- The state with a number; numbers without a state mean that the process is starting. -/
def ofNumber : Nat → Readiness
  | 1 => .ready
  | 2 => .draining
  | _ => .starting

/-- Whether the process serves requests. -/
def isReady (r : Readiness) : Bool := r = .ready

/-- What a call that sets the flag shows. -/
inductive Notice where
  /-- The flag was set to ready. -/
  | becameReady
  /-- The flag was set to draining. -/
  | becameDraining
  /-- The call came too late. -/
  | ignored
deriving DecidableEq, Repr

/-- The log line of a notice. -/
def Notice.message : Notice → String
  | .becameReady => "Readiness set: ready"
  | .becameDraining => "Readiness set: draining"
  | .ignored => "Ignoring readiness after shutdown started"

/-- The value that a notice writes to the gauge. -/
def Notice.gauge? : Notice → Option Nat
  | .becameReady => some 1
  | .becameDraining => some 0
  | .ignored => none

/-- Sets the flag: ready only from the start, draining from every state. -/
def set (value : Bool) (r : Readiness) : Readiness × Option Notice :=
  match value, r with
  | true, .starting => (.ready, some .becameReady)
  | true, .ready => (.ready, none)
  | true, .draining => (.draining, some .ignored)
  | false, .draining => (.draining, none)
  | false, _ => (.draining, some .becameDraining)

end Readiness

/-- Flags and the handles through which they are set. -/
structure ReadinessBoard where
  /-- The states of the flags. -/
  flags : List Readiness := [.starting]
  /-- For each handle the place of its flag. -/
  handles : List Nat := [0]
  /-- The gauge that all flags write. -/
  gauge : Option Nat := none
deriving DecidableEq, Repr

/-- What can be done with a board. -/
inductive ReadinessStep where
  /-- Sets the flag of a handle. -/
  | set (handle : Nat) (value : Bool)
  /-- Copies a handle. -/
  | clone (handle : Nat)
  /-- Makes a flag with a handle of its own. -/
  | create
  /-- Does nothing. -/
  | idle
deriving DecidableEq, Repr

namespace ReadinessBoard

/-- The place of the flag of a handle. Handles are counted round. -/
def flagOf (board : ReadinessBoard) (handle : Nat) : Nat :=
  (board.handles[handle % board.handles.length]?).getD 0

/-- The states that the handles show. -/
def states (board : ReadinessBoard) : List Readiness :=
  board.handles.map fun flag => (board.flags[flag]?).getD .starting

/-- Performs a step; the notice is what it shows. -/
def step (board : ReadinessBoard) : ReadinessStep → ReadinessBoard × Option Readiness.Notice
  | .set handle value =>
    let flag := board.flagOf handle
    let (state, notice) := ((board.flags[flag]?).getD .starting).set value
    ({ board with
        flags := board.flags.set flag state
        gauge := (notice.bind (·.gauge?)).or board.gauge }, notice)
  | .clone handle => ({ board with handles := board.handles ++ [board.flagOf handle] }, none)
  | .create =>
    ({ board with
        flags := board.flags ++ [.starting]
        handles := board.handles ++ [board.flags.length] }, none)
  | .idle => (board, none)

/-- The board after each step with what the step shows. -/
def run (board : ReadinessBoard) : List ReadinessStep →
    List (ReadinessBoard × Option Readiness.Notice)
  | [] => []
  | s :: steps => board.step s :: run (board.step s).1 steps

end ReadinessBoard

end ProtocolGateway

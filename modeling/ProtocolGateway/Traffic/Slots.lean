import ProtocolGateway.Host

/-!
# Connection slots

How many connections are open at once is limited by slots. To accept a connection means to get a
slot first and then to wait for a client; who gives up on the way gives the slot back. A slot is
free again when the connection is closed.

## Main definitions

* `Slots`: the slots with the clients that wait.
* `Slots.accept`: accepts the client that has waited longest.
* `Slots.run`: the results of a list of steps.
-/

namespace ProtocolGateway

/-- The slots of a listening socket and the clients that wait at it. Clients are numbered in the
order in which they connect. -/
structure Slots where
  /-- How many slots are free. -/
  free : Nat
  /-- How many clients have connected so far. -/
  clients : Nat := 0
  /-- The clients that nobody has accepted yet, the one that has waited longest first. -/
  waiting : List Nat := []
  /-- For each accepted connection, in order, whether it still holds its slot. -/
  held : List Bool := []
deriving DecidableEq, Repr

/-- What happens at a listening socket. -/
inductive SlotStep where
  /-- A client connects. -/
  | connect
  /-- A connection is accepted, or the attempt is given up if it would have to wait. -/
  | accept
  /-- The accepted connection of this number is closed. -/
  | release (connection : Nat)
deriving DecidableEq, Repr

/-- What comes of a step. -/
inductive SlotResult where
  | connected (reached : Bool)
  | accepted (client : Nat)
  | pending
  | released (held : Bool)
deriving DecidableEq, Repr

namespace Slots

/-- All slots are free. -/
def ofMax (max : Nat) : Slots := { free := max }

/-- How many slots are held. -/
def heldCount (s : Slots) : Nat := s.held.count true

/-- Takes a slot. -/
def acquire? (s : Slots) : Option Slots :=
  if s.free = 0 then none else some { s with free := s.free - 1 }

/-- Gives back a slot that no connection holds. -/
def giveBack (s : Slots) : Slots := { s with free := s.free + 1 }

/-- A client connects. -/
def connect (s : Slots) : Slots :=
  { s with clients := s.clients + 1, waiting := s.waiting ++ [s.clients] }

/-- Accepts a connection, or gives up if there is no slot or no client. -/
def accept (s : Slots) : Slots × Option Nat :=
  match s.acquire? with
  | none => (s, none)
  | some s' =>
    match s'.waiting with
    | [] => (s'.giveBack, none)
    | client :: waiting => ({ s' with waiting, held := s'.held ++ [true] }, some client)

/-- Whether an accepted connection holds its slot. -/
def holds (connection : Nat) (s : Slots) : Bool := (s.held[connection]?).getD false

/-- Closes an accepted connection. -/
def release (connection : Nat) (s : Slots) : Slots :=
  if s.holds connection then { s with free := s.free + 1, held := s.held.set connection false }
  else s

/-- Performs a step, on a host on which clients get through or not. -/
def step (reachable : Bool) (s : Slots) : SlotStep → Slots × SlotResult
  | .connect => if reachable then (s.connect, .connected true) else (s, .connected false)
  | .accept =>
    match s.accept with
    | (s, some client) => (s, .accepted client)
    | (s, none) => (s, .pending)
  | .release connection => (s.release connection, .released (s.holds connection))

/-- The slots after each step, with its result. -/
def run (reachable : Bool) (s : Slots) : List SlotStep → List (Slots × SlotResult)
  | [] => []
  | e :: steps => s.step reachable e :: run reachable (s.step reachable e).1 steps

end Slots

end ProtocolGateway

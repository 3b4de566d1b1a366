import ProtocolGateway.Metrics
import ProtocolGateway.Peek.Reading
import ProtocolGateway.Total
import ProtocolGateway.Traffic.Server

/-!
# Connections on their way

The way of all connections at once, from the slot that the accept loop takes for each to its end.
Every connection is in one place at a time: its first bytes are read, it is handed over, it waits in
the queue of a server, it is served, or it is closed. The accept loop, the readers of first bytes
and the servers work side by side; a list of steps is one order in which they may do so. A step that
is not possible where it stands changes nothing.

## Main definitions

* `Traffic`: the places of all connections.
* `TrafficStep`: what can happen.
* `Traffic.run`: the places after a list of steps.
-/

namespace ProtocolGateway

/-- How a connection ends. -/
inductive Closing where
  /-- It was closed before its protocol was known. -/
  | dropped (reason : DropReason)
  /-- Its protocol was known, but the server had stopped. -/
  | unwanted
  /-- It was in the queue when the server stopped. -/
  | unserved
  /-- It was served to its end. -/
  | finished
  /-- It was served and cut off. -/
  | forced
deriving DecidableEq, Repr

/-- What the accept loop is about. -/
inductive AcceptLoop where
  /-- It waits for a slot. -/
  | idle
  /-- It has a slot and waits for a client. -/
  | holding
  | stopped
deriving DecidableEq, Repr

/-- The places of all connections. Connections are numbered in the order in which they are
accepted, servers by their place in the list. -/
structure Traffic where
  /-- How many slots are free. -/
  free : Nat
  loop : AcceptLoop := .idle
  /-- How many clients wait to be accepted. -/
  waiting : Nat := 0
  /-- How many connections were accepted. -/
  accepted : Nat := 0
  /-- The connections whose first bytes are read. -/
  peeking : List Nat := []
  /-- The connections whose protocol is known, with their servers. -/
  handing : List (Nat × Nat) := []
  servers : List Server
  /-- The connections that have ended. -/
  closed : List (Nat × Closing) := []
  /-- What was counted. -/
  metrics : Metrics := []
deriving DecidableEq, Repr

/-- What can happen. -/
inductive TrafficStep where
  /-- A client connects. -/
  | connect
  /-- The accept loop takes a slot. -/
  | takeSlot
  /-- The accept loop accepts a client. -/
  | accept
  /-- Accepting a client fails, and the accept loop begins anew. -/
  | acceptFails
  /-- A connection is dropped before its protocol is known. -/
  | drop (connection : Nat) (reason : DropReason)
  /-- The protocol of a connection is found to be that of a server. -/
  | classify (connection : Nat) (server : Nat)
  /-- A connection is put into the queue of its server, or closed if that has stopped. -/
  | handOver (connection : Nat)
  /-- A server takes a connection out of its queue. -/
  | take (server : Nat)
  /-- A connection is served to its end. -/
  | finish (server : Nat) (connection : Nat)
  /-- A server notices that a connection is done. -/
  | notice (server : Nat)
  /-- The accept loop stops. -/
  | stopAccepting
  /-- A server notices that no more connections can come. -/
  | exhaust (server : Nat)
  /-- A server is told to stop. -/
  | stop (server : Nat)
  /-- A server ends because all its connections are done. -/
  | drained (server : Nat)
  /-- A server ends because the deadline is reached. -/
  | expire (server : Nat)
  /-- A server ends because nobody is left who could stop it. -/
  | abandon (server : Nat)
deriving DecidableEq, Repr

namespace Traffic

/-- Nothing has happened: all slots are free, and the servers of the protocols wait. -/
def ofSlots (slots : Nat) (protocols : List String) : Traffic :=
  { free := slots, servers := protocols.map fun protocol => { protocol } }

/-- How many connections are open. -/
def openCount (t : Traffic) : Nat :=
  t.peeking.length + t.handing.length +
    total (t.servers.map fun s => s.queue.length + s.serving.length)

/-- How many slots the accept loop has in hand. -/
def inHand (t : Traffic) : Nat := if t.loop = .holding then 1 else 0

/-- Closes connections, whose slots are free then. -/
def close (connections : List Nat) (closing : Closing) (t : Traffic) : Traffic :=
  { t with
    free := t.free + connections.length
    closed := t.closed ++ connections.map fun c => (c, closing) }

/-- Changes a server. -/
def modify (server : Nat) (f : Server → Server) (t : Traffic) : Traffic :=
  { t with servers := t.servers.modify server f }

/-- Whether nobody is left who could hand over a connection. -/
def isQuiet (t : Traffic) : Bool := t.loop = .stopped && t.peeking.isEmpty && t.handing.isEmpty

/-- Changes a server. If it stops by that, the connections in its queue are closed unserved, and
those that it serves are cut off. -/
def letGo (server : Nat) (f : Server → Server) (t : Traffic) : Traffic :=
  match t.servers[server]? with
  | none => t
  | some s =>
    let changed := t.modify server f
    if s.listens && !(f s).listens then
      (changed.close s.queue .unserved).close s.serving .forced
    else changed

/-- Hands a connection to a server. -/
def handTo (connection server : Nat) (t : Traffic) : Traffic :=
  match t.servers[server]? with
  | none => t
  | some s =>
    let rest : Traffic := { t with handing := t.handing.erase (connection, server) }
    if !s.listens then rest.close [connection] .unwanted
    else if s.hasRoom then rest.modify server (·.enqueue connection)
    else t

/-- Performs a step. -/
def step (t : Traffic) : TrafficStep → Traffic
  | .connect => { t with waiting := t.waiting + 1 }
  | .takeSlot =>
    if t.loop = .idle && t.free ≠ 0 then { t with loop := .holding, free := t.free - 1 } else t
  | .accept =>
    if t.loop = .holding && t.waiting ≠ 0 then
      { t with
        loop := .idle, waiting := t.waiting - 1, accepted := t.accepted + 1
        peeking := t.peeking ++ [t.accepted] }
    else t
  | .acceptFails =>
    if t.loop = .holding then { t with loop := .idle, free := t.free + 1 } else t
  | .drop connection reason =>
    if t.peeking.contains connection then
      { t with
        peeking := t.peeking.erase connection
        metrics := t.metrics.add (.droppedConnections reason.label) 1 }.close
          [connection] (.dropped reason)
    else t
  | .classify connection server =>
    match t.servers[server]? with
    | none => t
    | some s =>
      if t.peeking.contains connection then
        { t with
          peeking := t.peeking.erase connection
          handing := t.handing ++ [(connection, server)]
          metrics := t.metrics.add (.connections s.protocol) 1 }
      else t
  | .handOver connection =>
    match t.handing.find? (·.1 = connection) with
    | none => t
    | some (_, server) => t.handTo connection server
  | .take server => t.modify server (·.take)
  | .finish server connection =>
    match t.servers[server]? with
    | none => t
    | some s =>
      if s.serving.contains connection then
        (t.modify server (·.finish connection)).close [connection] .finished
      else t
  | .notice server => t.modify server (·.notice)
  | .stopAccepting => { t with loop := .stopped, free := t.free + t.inHand }
  | .exhaust server => if t.isQuiet then t.modify server (·.exhaust) else t
  | .stop server => t.modify server (·.stop)
  | .drained server => t.letGo server (·.drained)
  | .expire server => t.letGo server (·.expire)
  | .abandon server => t.letGo server (·.abandon)

/-- The places after a list of steps. -/
def run (t : Traffic) (steps : List TrafficStep) : Traffic := steps.foldl step t

/-- What the servers tell about their ends. -/
def reports (t : Traffic) : List DrainReport := t.servers.map (·.report)

end Traffic

end ProtocolGateway

/-!
# Servers of connections

A server takes connections out of its queue and serves them side by side. A connection that is done
stays on the list of the server until that notices it. Told to stop, the server takes no more, lets
those that it serves finish, and cuts off the rest when a deadline is reached. What is left in its
queue then is closed without having been served.

Connections are known by numbers here.

## Main definitions

* `Server`: a server with its connections.
* `Server.stop`, `Server.expire`, `Server.abandon`: the ways to the end.
* `DrainReport`: what a server tells about its end.
-/

namespace ProtocolGateway

/-- What a server is about. -/
inductive ServerStage where
  /-- It waits for connections. -/
  | accepting
  /-- No more connections can come, but nobody has told it to stop. -/
  | exhausted
  /-- It lets its connections finish. -/
  | draining
  | stopped
deriving DecidableEq, Repr

/-- What a server tells about its end. -/
structure DrainReport where
  protocol : String
  /-- How many connections it served when it began to drain. -/
  opened : Nat
  /-- How many of them it cut off. -/
  forced : Nat
deriving DecidableEq, Repr

/-- A server with its connections. -/
structure Server where
  protocol : String
  stage : ServerStage := .accepting
  /-- The connections that wait to be served, the oldest first. -/
  queue : List Nat := []
  /-- The connections that are served. -/
  serving : List Nat := []
  /-- The connections that are done, as far as the server has not noticed. -/
  done : List Nat := []
  /-- How many connections it served when it began to drain. -/
  opened : Nat := 0
  /-- How many of them it cut off. -/
  forced : Nat := 0
deriving DecidableEq, Repr

/-- How many connections the queue of a server holds. -/
def queueCapacity : Nat := 64

namespace Server

/-- Whether connections can be handed to the server. -/
def listens (s : Server) : Bool := s.stage != .stopped

/-- Whether there is room in the queue. -/
def hasRoom (s : Server) : Bool := s.queue.length < queueCapacity

/-- Puts a connection into the queue. -/
def enqueue (connection : Nat) (s : Server) : Server := { s with queue := s.queue ++ [connection] }

/-- Takes the oldest connection out of the queue and serves it. -/
def take (s : Server) : Server :=
  match s.stage, s.queue with
  | .accepting, connection :: queue =>
    { s with queue, serving := s.serving ++ [connection] }
  | _, _ => s

/-- A connection is done. -/
def finish (connection : Nat) (s : Server) : Server :=
  { s with serving := s.serving.erase connection, done := s.done ++ [connection] }

/-- Notices that a connection is done, while it waits for others. -/
def notice (s : Server) : Server :=
  match s.stage with
  | .accepting => { s with done := s.done.tail }
  | _ => s

/-- Notices all connections that are done. -/
def noticeAll (s : Server) : Server := { s with done := [] }

/-- How many connections are on the list of the server. -/
def listed (s : Server) : Nat := s.serving.length + s.done.length

/-- Notices that no more connections can come. -/
def exhaust (s : Server) : Server :=
  if s.stage = .accepting && s.queue.isEmpty then { s with stage := .exhausted } else s

/-- Whether the server has not been told to stop. -/
def runs (s : Server) : Bool := s.stage = .accepting || s.stage = .exhausted

/-- Is told to stop: lets its connections finish. -/
def stop (s : Server) : Server :=
  if s.runs then
    let rest := s.noticeAll
    { rest with stage := .draining, opened := rest.listed }
  else s

/-- The server with nothing left to do, having cut off a number of connections. -/
def ended (forced : Nat) (s : Server) : Server :=
  { s with stage := .stopped, queue := [], serving := [], done := [], forced }

/-- Ends when all its connections are done. -/
def drained (s : Server) : Server :=
  if s.stage = .draining && s.serving.isEmpty then s.ended 0 else s

/-- Ends because the deadline is reached. -/
def expire (s : Server) : Server :=
  if s.stage = .draining then s.noticeAll.ended s.noticeAll.listed else s

/-- Ends at once, because nobody is left who could set a deadline. -/
def abandon (s : Server) : Server := if s.runs then s.stop.ended s.stop.opened else s

/-- What the server tells about its end. -/
def report (s : Server) : DrainReport := ⟨s.protocol, s.opened, s.forced⟩

end Server

end ProtocolGateway

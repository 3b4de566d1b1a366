import ProtocolGateway.Startup.Launch

/-!
# Serving

What happens to a launched process one after another: requests come in, something changes in the
directory of the settings file, somebody sets the readiness flag, connections go their way.

## Main definitions

* `Occurrence`: what can happen to a process that serves.
* `Gateway.occur`, `Gateway.serveAll`: what comes of it.
-/

namespace ProtocolGateway

/-- What can happen to a process that serves. -/
inductive Occurrence where
  /-- A request comes in. -/
  | request (entrance : Gateway.Entrance) (ids : FreshIds) (request : Request)
  /-- Something changes in the directory of the settings file. -/
  | file (event : FileEvent)
  /-- The readiness flag is set. -/
  | ready (value : Bool)
  /-- Something happens to the connections. -/
  | traffic (step : TrafficStep)

namespace Gateway

variable {M : Type}

/-- What comes of an occurrence, with the reply if it is a request. -/
def occur [Log.Patterns] (g : Gateway M) : Occurrence → Gateway M × Option Reply
  | .request entrance ids request =>
    let (g, reply) := g.answer entrance ids request
    (g, some reply)
  | .file event => (g.notice event, none)
  | .ready value => ({ g with context := g.context.setReadiness value }, none)
  | .traffic step => (g.advance [step], none)

/-- What comes of occurrences one after another, with the replies to the requests among them. -/
def serveAll [Log.Patterns] (g : Gateway M) : List Occurrence → Gateway M × List Reply
  | [] => (g, [])
  | o :: rest =>
    let (g, reply) := g.occur o
    let (g, replies) := serveAll g rest
    (g, reply.toList ++ replies)

end Gateway

end ProtocolGateway

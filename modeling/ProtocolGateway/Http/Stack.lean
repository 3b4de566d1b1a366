import ProtocolGateway.Http.Service
import ProtocolGateway.Uri.Below

/-!
# The two stacks

Two route tables answer requests. The primary table answers those of HTTP/1 clients; below a
reserved path it forwards requests to the secondary table, as if they had been sent there without
that path. The secondary table also answers HTTP/2 clients directly. Each has layers of its own.

## Main definitions

* `Stacks.build?`: puts the forwarding routes into the primary table.
* `Stacks.primary`, `Stacks.secondary`: the services.
* `Stacks.dispatch`: forwards a request.
-/

namespace ProtocolGateway

/-- What answers a request in the primary table. -/
inductive Endpoint where
  | handler (handler : Handler)
  /-- The request is forwarded to the secondary table. -/
  | forward

/-- What the stacks look like. All of it is fixed when the process is launched. -/
structure Stacks where
  /-- The primary table with the routes that forward. -/
  front : Table Endpoint
  /-- The secondary table. -/
  back : Table Handler
  /-- The reserved path, without slashes at its end. -/
  reserved : List Char
  /-- How many milliseconds a request may take. -/
  requestMs : Nat
  /-- How long a body may be. -/
  maxBodyBytes : Nat

/-- The identities that the two stacks would give a request without one. -/
structure FreshIds where
  /-- The identity that the primary stack gives. -/
  primary : Bytes
  /-- The identity that the secondary stack gives. -/
  secondary : Bytes

section map

variable {α β : Type} (f : α → β)

/-- The same with another kind of endpoints. -/
def Endpoints.map (e : Endpoints α) : Endpoints β :=
  { verbs := e.verbs.map fun v => (v.1, f v.2), any := e.any.map f }

/-- The route with another kind of endpoints. -/
def Route.map (r : Route α) : Route β := { pattern := r.pattern, endpoints := r.endpoints.map f }

/-- The table with another kind of endpoints. -/
def Table.map (t : Table α) : Table β :=
  { routes := t.routes.map (Route.map f), fallback := t.fallback.map f }

end map

/-- The paths that are reserved: the path itself, and everything below it. -/
def reservedEntries (reserved : List Char) : List (RouteEntry Endpoint) :=
  ["", "/", "/\x7b*rest\x7d"].map fun tail =>
    { path := some (reserved ++ tail.toList), verb := none, endpoint := .forward }

namespace Stacks

/-- Builds the stacks of two tables. There are none if the reserved paths are no patterns, or do not
go together with the primary table. -/
def build? (s : Settings) (http gateway : Table Handler) : Option Stacks := do
  let reserved := s.gateway.trimmedPrefix
  let forwarding ← Table.ofEntries? (reservedEntries reserved)
  let front ← ((http.map .handler).merge forwarding).toOption
  return {
    front, back := gateway, reserved
    requestMs := s.timeouts.requestMs, maxBodyBytes := s.limits.maxBodyBytes }

/-- The layers around the endpoints of the secondary table. -/
def backLayers (g : Stacks) (fresh : Bytes) (inner : Service) : Service :=
  Layer.identified fresh <| Layer.traced <| Layer.returningId <| Layer.timed g.requestMs inner

/-- The layers around the endpoints of the primary table. -/
def frontLayers (g : Stacks) (fresh : Bytes) (inner : Service) : Service :=
  Layer.identified fresh <| Layer.traced <| Layer.returningId <| Layer.timed g.requestMs <|
    Layer.sized g.maxBodyBytes <| Layer.counted inner

/-- The secondary service. -/
def secondary (g : Stacks) (live : Live) (ids : FreshIds) : Service :=
  g.back.serve (g.backLayers ids.secondary) (·.service live)

/-- Forwards a request to a service, which sees its URI below the reserved path. -/
def dispatch (reserved : List Char) (inner : Service) : Service := fun request =>
  match request.uri.below? reserved with
  | none => { response := .empty 404 }
  | some uri => inner { request with uri, route := none }

/-- The primary service, given the service that gets the requests on reserved paths. -/
def primaryWith (forwarding : Service) (g : Stacks) (live : Live) (ids : FreshIds) : Service :=
  g.front.serve (g.frontLayers ids.primary) fun
    | .handler h => h.service live
    | .forward => forwarding

/-- The primary service. -/
def primary (g : Stacks) (live : Live) (ids : FreshIds) : Service :=
  g.primaryWith (dispatch g.reserved (g.secondary live ids)) live ids

end Stacks

/-- The requests of a reply that are counted. -/
def Metrics.addReply (reply : Reply) (metrics : Metrics) : Metrics :=
  reply.events.foldl (fun m (_, event) => match event with
    | .span .. | .handled _ => m
    | .counted method route status => m.addRequest method (String.ofList route) status) metrics

end ProtocolGateway

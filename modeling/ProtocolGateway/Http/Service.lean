import ProtocolGateway.Http.Message
import ProtocolGateway.Readiness
import ProtocolGateway.Route.Table
import ProtocolGateway.Settings

/-!
# Services

A service answers a request after some time. What is observed meanwhile, spans and counted requests,
is part of the reply, with the moment at which it happens: if a time limit cuts the reply short,
what would have happened later does not happen.

Layers wrap a service; routes choose one. What a request has been noted to have come through stays
with it, so a service that is called by a handler of another table sees the notes of that table.

## Main definitions

* `Handler`: the code behind a route.
* `Service`: a request to a reply.
* `Layer.*`: what is put around routes.
* `Table.serve`: the service of a route table.
-/

namespace ProtocolGateway

/-- What handlers can ask the running process. -/
structure Live where
  readiness : Readiness := .starting
  mode : RunMode := .release
  /-- For how many seconds the process has been running. -/
  uptimeSecs : Nat := 0

/-- What a handler gets of a request. -/
structure Call where
  method : String
  uri : Uri
  headers : Headers
  /-- All octets of the body, unless there are more than may be read. -/
  content : Option Bytes
  /-- The body as a whole, which has a limit of its own. -/
  whole : Option Bytes
  /-- The pattern of the route. -/
  route : Option (List Char)
  /-- What the patterns on the way have captured. -/
  captures : Captures
  /-- The URI with which the request came to the first table. -/
  original : Uri
  /-- The address of the client. -/
  peer : Option String
deriving DecidableEq, Repr

/-- What a handler does: it answers after a delay. -/
structure Answer where
  /-- How many milliseconds the answer takes. -/
  delay : Nat := 0
  response : Response

/-- The code behind a route. -/
abbrev Handler := Live → Call → Answer

/-- What is observed of a request. -/
inductive RequestEvent where
  /-- A span is opened around a request. -/
  | span (method : String) (route : List Char) (requestId : List Char)
  /-- A handler gets a request. -/
  | handled (call : Call)
  /-- A finished request is counted. -/
  | counted (method : String) (route : List Char) (status : Nat)
deriving DecidableEq, Repr

/-- The answer of a service with what is observed until then. -/
structure Reply where
  /-- After how many milliseconds the response is there. -/
  delay : Nat := 0
  response : Response
  /-- What is observed, with the moment. -/
  events : List (Nat × RequestEvent) := []
deriving DecidableEq, Repr

/-- Answers requests. -/
abbrev Service := Request → Reply

/-- The name of the header with the identity of a request. -/
def requestIdHeader : String := "x-request-id"

namespace Request

/-- What a handler gets of a request. -/
def toCall (r : Request) : Call :=
  { method := r.method, uri := r.uri, headers := r.headers, content := r.body.read?,
    whole := r.body.whole?, route := r.route, captures := r.captures,
    original := r.original.getD r.uri, peer := r.peer }

/-- The request on its way to the endpoints of a pattern. If it has come through another pattern, it
shows both, one after the other, and what both have captured; without a pattern for its path it
keeps what it shows. The URI with which it came to the first table is noted once. -/
def enter (pattern : Option (List Char)) (r : Request) : Request :=
  { r with
    original := some (r.original.getD r.uri)
    route := match pattern with
      | none => r.route
      | some text => some (r.route.getD [] ++ text)
    captures := r.captures ++ .ofRoute pattern r.uri.path }

/-- The route as labels show it. -/
def routeLabel (r : Request) : List Char := r.route.getD "<unmatched>".toList

/-- The identity of a request, as far as it can be shown. -/
def shownId? (r : Request) : Option (List Char) :=
  (r.headers.first? requestIdHeader).bind Headers.visibleText?

end Request

/-- The service of a handler. -/
def Handler.service (h : Handler) (live : Live) : Service := fun request =>
  let answer := h live request.toCall
  { delay := answer.delay, response := answer.response, events := [(0, .handled request.toCall)] }

/-- The service that answers with a status only. -/
def Service.status (status : Nat) : Service := fun _ => { response := .empty status }

namespace Layer

/-- Gives a request an identity, unless it has one. -/
def identified (fresh : Bytes) (inner : Service) : Service := fun request =>
  inner { request with headers := request.headers.addMissing requestIdHeader fresh }

/-- Opens a span around a request. -/
def traced (inner : Service) : Service := fun request =>
  let reply := inner request
  let span := .span request.method request.routeLabel (request.shownId?.getD ['-'])
  { reply with events := (0, span) :: reply.events }

/-- Shows the identity of a request on the response, unless that has one. -/
def returningId (inner : Service) : Service := fun request =>
  let reply := inner request
  match request.headers.first? requestIdHeader with
  | none => reply
  | some id =>
    { reply with response := { reply.response with
        headers := reply.response.headers.addMissing requestIdHeader id } }

/-- Answers for a service that is not done within the limit. A service that is done at the very
moment of the limit is too late. -/
def timed (limit : Nat) (inner : Service) : Service := fun request =>
  let reply := inner request
  if reply.delay < limit then reply
  else
    { delay := limit, response := .empty 408, events := reply.events.filter (·.1 < limit) }

/-- Refuses bodies that are announced as longer than the limit, and lets no more be read of others
than the limit and what is announced. -/
def sized (limit : Nat) (inner : Service) : Service := fun request =>
  match request.headers.announcedLength? with
  | none => inner { request with body := request.body.limit limit }
  | some length =>
    if limit < length then { response := .text 413 (bytesOf "length limit exceeded") }
    else inner { request with body := request.body.limit length }

/-- Counts a request when it is answered. -/
def counted (inner : Service) : Service := fun request =>
  let reply := inner request
  let event := .counted request.method request.routeLabel reply.response.status
  { reply with events := reply.events ++ [(reply.delay, event)] }

end Layer

/-- Whether a status means success. -/
def isSuccess (status : Nat) : Bool := 200 ≤ status && status < 300

/-- Whether a response is known to have a body: it has octets or announces some. -/
def Response.announcesBody (r : Response) : Bool :=
  r.headers.has "content-length" || r.headers.has "transfer-encoding" || r.leastLength != 0

/-- The headers of a response with the allow header, and with the length of the body if that is
known. -/
def Response.fittedHeaders (allow : Option String) (r : Response) : Headers :=
  (r.headers.addMissing? "allow" (allow.map bytesOf)).addMissing? "content-length"
    (r.exactLength?.map fun n => bytesOf (Decimal.render n))

/-- What the method makes of a response. The opening of a tunnel has no body. All other responses
show the length of their bodies, if it is known, and those to a method without an endpoint the
methods that have one; after that, HEAD gets no body. -/
def Response.fitMethod (method : String) (allow : Option String) (r : Response) : Response :=
  if method = Verb.connect.name && isSuccess r.status then
    if r.announcesBody then r.withoutBody else r
  else
    let fitted := { r with headers := r.fittedHeaders allow }
    if method = Verb.head.name then fitted.withoutBody else fitted

namespace Table

variable {α : Type}

/-- What a table decides for a request. -/
inductive Choice (α : Type) where
  /-- The endpoint that answers. -/
  | endpoint (endpoint : α)
  /-- The pattern has no endpoint for the method. -/
  | wrongMethod (allow : Option String)
  /-- There is no pattern and no endpoint for the path. -/
  | notFound

/-- The pattern of a path with the decision on a method. -/
def choose (t : Table α) (method : String) (path : List Char) : Option (List Char) × Choice α :=
  match t.find? path with
  | none =>
    (none, match t.fallback with
      | some endpoint => .endpoint endpoint
      | none => .notFound)
  | some r =>
    (some r.pattern.text, match r.endpoints.find? method with
      | some endpoint => .endpoint endpoint
      | none => .wrongMethod r.endpoints.allow?)

/-- The service that a decision leads to. -/
def Choice.service (run : α → Service) : Choice α → Service
  | .endpoint e => run e
  | .wrongMethod _ => .status 405
  | .notFound => .status 404

/-- The allow header that a decision asks for. -/
def Choice.allow? : Choice α → Option String
  | .wrongMethod methods => methods
  | _ => none

/-- The service of a table with layers around each of its endpoints. -/
def serve (t : Table α) (layers : Service → Service) (run : α → Service) : Service := fun request =>
  let (route, choice) := t.choose request.method request.uri.path
  let reply := layers (choice.service run) (request.enter route)
  { reply with response := reply.response.fitMethod request.method choice.allow? }

end Table

end ProtocolGateway

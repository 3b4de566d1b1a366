import ProtocolGateway.Http.Headers
import ProtocolGateway.Json
import ProtocolGateway.Route.Captures
import ProtocolGateway.Uri

/-!
# Requests and responses

A body is read through a cap: a longer one cannot be read at all. The two standard ways to read a
body differ in that a whole body, asked for as such, has a limit of its own. The length of the body
of a response is known in advance, or it is not.

On its way to a handler a request is noted to have come through patterns: their texts, what they
have captured of its path, and the URI that it had before.

## Main definitions

* `Body.read?`, `Body.whole?`: what a handler gets of a body.
* `Request`, `Response`.
* `Response.exactLength?`: the length of the body of a response, if it is known.
-/

namespace ProtocolGateway

/-- A body on its way to a handler. -/
structure Body where
  /-- All octets that the client sends. -/
  bytes : Bytes := []
  /-- How many of them may be read, if that is limited. -/
  cap : Option Nat := none

namespace Body

/-- Lowers the cap. -/
def limit (n : Nat) (b : Body) : Body :=
  { b with cap := some (match b.cap with
    | none => n
    | some m => min m n) }

/-- The octets of the body, unless there are more than the cap allows. -/
def read? (b : Body) : Option Bytes :=
  if b.cap.all (b.bytes.length ≤ ·) then some b.bytes else none

/-- How long a body may be to be handed over as a whole. -/
def wholeLimit : Nat := 2097152

/-- The body as a whole, unless it is longer than its cap or than the limit for that. -/
def whole? (b : Body) : Option Bytes := (b.limit wholeLimit).read?

end Body

/-- A request. -/
structure Request where
  method : String
  uri : Uri
  headers : Headers := []
  body : Body := {}
  /-- The pattern of the route that was found for it. -/
  route : Option (List Char) := none
  /-- What the patterns that it has come through have captured. -/
  captures : Captures := .texts []
  /-- The URI with which it came to the first table. -/
  original : Option Uri := none
  /-- The address of the client, if there is a connection. -/
  peer : Option String := none

/-- What is known of the length of a body before it is sent. -/
inductive BodyLength where
  | exact
  /-- It is not known, but for a number of octets that the body has at least. -/
  | atLeast (octets : Nat)
deriving DecidableEq, Repr

/-- A response. -/
structure Response where
  status : Nat
  headers : Headers := []
  body : Bytes := []
  /-- What is known of the length of the body. -/
  length : BodyLength := .exact
deriving DecidableEq, Repr

namespace Response

/-- The length of the body, if it is known. -/
def exactLength? (r : Response) : Option Nat :=
  match r.length with
  | .exact => some r.body.length
  | .atLeast _ => none

/-- How many octets the body is known to have at least. -/
def leastLength (r : Response) : Nat :=
  match r.length with
  | .exact => r.body.length
  | .atLeast octets => octets

/-- The response without its body. -/
def withoutBody (r : Response) : Response := { r with body := [], length := .exact }

/-- A response that is only a status. -/
def empty (status : Nat) : Response := { status }

/-- The content type of texts. -/
def textType : Bytes := bytesOf "text/plain; charset=utf-8"

/-- The content type of JSON documents. -/
def jsonType : Bytes := bytesOf "application/json"

/-- A text. -/
def text (status : Nat) (body : Bytes) : Response :=
  { status, headers := [("content-type", textType)], body }

/-- A JSON document. -/
def json (status : Nat) (document : Json) : Response :=
  { status, headers := [("content-type", jsonType)], body := document.toBytes }

end Response

/-- The response to a body that turns out to be too long when it is read. -/
def Response.unreadableBody : Response :=
  .text 413 (bytesOf "Failed to buffer the request body: length limit exceeded")

end ProtocolGateway

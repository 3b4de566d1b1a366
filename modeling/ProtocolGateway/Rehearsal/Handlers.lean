import ProtocolGateway.Http.Service

/-!
# Handlers for rehearsals

Handlers with which a route table can be rehearsed without the code that will stand behind it: one
that answers with a text, one that takes its time, and one that answers with what it got.
-/

namespace ProtocolGateway.Rehearsal

/-- Octets as a document: a text, or their digits if they are none. -/
def bytesJson (bytes : Bytes) : Json :=
  match Utf8.decode? bytes with
  | some text => .str (String.ofList text)
  | none => .obj [("hex", .str (String.ofList (bytes.flatMap fun b => Json.hexPair b.toNat)))]

/-- Answers with a text and further headers. -/
def text (status : Nat) (headers : Headers) (body : Bytes) : Handler := fun _ _ =>
  let response := Response.text status body
  { response := { response with headers := response.headers ++ headers } }

/-- Answers after a while. -/
def sleeping (delay : Nat) : Handler := fun _ _ =>
  { delay, response := .text 200 (bytesOf "slept") }

/-- The headers that belong to the connection and not to the request. -/
def connectionHeaders : List String := ["host", "connection", "content-length"]

/-- Headers as a document, with all values of a name together. -/
def headersJson (headers : Headers) : Json :=
  let shown : Headers := headers.filter (!connectionHeaders.contains ·.1)
  .obj ((shown.map (·.1)).eraseDups.map fun name =>
    (name, .arr ((shown.values name).map bytesJson)))

/-- Answers with a document of what it got. It asks for the whole body. -/
def echo : Handler := fun _ call =>
  let str (text : List Char) : Json := .str (String.ofList text)
  let orNull (text : Option (List Char)) : Json := (text.map str).getD .null
  match call.whole with
  | none => { response := .unreadableBody }
  | some body =>
    { response := .json 200 (.obj [
        ("method", .str call.method),
        ("uri", str call.uri.render),
        ("path", str call.uri.path),
        ("query", orNull call.uri.query),
        ("headers", headersJson call.headers),
        ("body", bytesJson body),
        ("matched", orNull call.route),
        ("request_id", orNull ((call.headers.first? requestIdHeader).bind Headers.visibleText?)),
        ("peer", (call.peer.map .str).getD .null)]) }

end ProtocolGateway.Rehearsal

import ProtocolGateway.Log.Event
import ProtocolGateway.Url

/-!
# The collector

Where log lines are shipped to, with what the shipper logs about it. These events are not shipped
themselves, so that a collector that fails does not feed itself.
-/

namespace ProtocolGateway.Shipping

/-- The part of the program that ships log lines. -/
def part : String := "observability::shipping"

/-- The target under which it logs. -/
def target : String := Log.rootTarget ++ "::" ++ part

/-- Whether an event is shipped. -/
def ships (e : Log.Event) : Bool := !target.toList.isPrefixOf e.target.toList

/-- The wording of an endpoint that is no URL. -/
def endpointMessage (endpoint : String) (cause : UrlError) : String :=
  "invalid log shipping endpoint '" ++ endpoint ++ "': " ++ cause.message

/-- Why lines cannot be posted to a URL that nobody listens at. -/
def postMessage (url : Url) : String :=
  let place := " for url (" ++ String.ofList url.render ++ ")"
  if url.isHttp then "error sending request" ++ place else "builder error" ++ place

/-- What is logged of a batch that was not delivered. -/
def notDeliveredEvent (url : Url) (lines : Nat) : Log.Event :=
  .of .warn part "Log batch not delivered"
    [("endpoint", .plain (String.ofList url.render)), ("lines", .number lines),
      ("error", .plain (postMessage url))]

/-- What is logged when the shipper has stopped. -/
def stoppedEvent (url : Url) : Log.Event :=
  .of .debug part "Log shipper stopped" [("endpoint", .plain (String.ofList url.render))]

end ProtocolGateway.Shipping

import ProtocolGateway.Log.Filter
import ProtocolGateway.Settings
import ProtocolGateway.SocketAddress
import ProtocolGateway.Url

/-!
# Problems with settings

Whether settings make sense as a whole. Each field that is at fault is reported, in a fixed order,
together with the fault; settings without a problem are accepted.

## Main definitions

* `Settings.fault?`: the fault of one field.
* `Settings.problems`: all problems.
-/

namespace ProtocolGateway

/-- The fields that can be at fault, in the order in which problems are reported. -/
inductive SettingsField where
  | bindAddress
  | maxConnections
  | peekTimeout
  | peekBuffer
  | gatewayPrefix
  | healthPath
  | requestTimeout
  | shutdownTimeout
  | logLevel
  | metricsAddress
  | endpoint
  | batchSize
  | queueCapacity
deriving DecidableEq, Repr

namespace SettingsField

/-- All fields in the order in which problems are reported. -/
def all : List SettingsField :=
  [.bindAddress, .maxConnections, .peekTimeout, .peekBuffer, .gatewayPrefix, .healthPath,
    .requestTimeout, .shutdownTimeout, .logLevel, .metricsAddress, .endpoint, .batchSize,
    .queueCapacity]

/-- The name of a field with its section. -/
def name : SettingsField → String
  | .bindAddress => "listener.bind_address"
  | .maxConnections => "listener.max_connections"
  | .peekTimeout => "listener.peek_timeout_ms"
  | .peekBuffer => "listener.peek_buffer_bytes"
  | .gatewayPrefix => "gateway.prefix"
  | .healthPath => "health.path"
  | .requestTimeout => "timeouts.request_secs"
  | .shutdownTimeout => "timeouts.shutdown_ms"
  | .logLevel => "observability.log_level"
  | .metricsAddress => "observability.metrics_address"
  | .endpoint => "log_shipping.endpoint"
  | .batchSize => "log_shipping.batch_size"
  | .queueCapacity => "log_shipping.queue_capacity"

end SettingsField

/-- What can be wrong with a field. -/
inductive Fault where
  | notSocketAddress (text : String)
  | notPositive
  /-- Fewer bytes than the opening of an HTTP/2 connection takes. -/
  | belowPreface
  | noLeadingSlash
  | rootPath
  /-- The path of the built-in route for information on the process. -/
  | takenPath
  | underPrefix (gatewayPrefix : List Char)
  | notLogLevel (text : String) (cause : Log.FilterError)
  | unsupportedScheme (scheme : List Char)
  | notUrl (cause : UrlError)
deriving DecidableEq, Repr

/-- The path of the built-in route for information on the process. -/
def infoPath : List Char := "/api/system/info".toList

/-- How many bytes open an HTTP/2 connection. -/
def prefaceSize : Nat := 24

/-- The wording of a fault. -/
def Fault.message : Fault → String
  | .notSocketAddress text => s!"'{text}' is not a socket address"
  | .notPositive => "must be > 0"
  | .belowPreface => "must be >= 24"
  | .noLeadingSlash => "must start with '/'"
  | .rootPath => "must not be the root path"
  | .takenPath => "'" ++ String.ofList infoPath ++ "' is already served by the system module"
  | .underPrefix p => "must not be under gateway prefix '" ++ String.ofList p ++ "'"
  | .notLogLevel text cause => s!"'{text}' is not a log level: " ++ cause.message
  | .unsupportedScheme scheme => "unsupported scheme '" ++ String.ofList scheme ++ "'"
  | .notUrl cause => cause.message

/-- A field with its fault. -/
structure Problem where
  /-- The field at fault. -/
  field : SettingsField
  /-- What is wrong with it. -/
  fault : Fault
deriving DecidableEq, Repr

/-- A problem as one line. -/
def Problem.message (p : Problem) : String := p.field.name ++ ": " ++ p.fault.message

/-- Whether a path is the given one or lies below it. -/
def isUnder (above path : List Char) : Bool :=
  match Text.dropStart? above path with
  | none => false
  | some [] => true
  | some (c :: _) => c == '/'

namespace Settings

/-- The fault of a socket address. -/
def addressFault? (text : String) : Option Fault :=
  if (SocketAddress.parse? text).isNone then some (.notSocketAddress text) else none

/-- The fault of a number that must not be zero. -/
def zeroFault? (n : Nat) : Option Fault := if n = 0 then some .notPositive else none

/-- The fault of the gateway prefix. -/
def prefixFault? (g : GatewaySettings) : Option Fault :=
  if g.pathPrefix.toList.head? ≠ some '/' then some .noLeadingSlash
  else if g.normalizedPrefix = ['/'] then some .rootPath
  else none

/-- The fault of the health path. It is compared without the slashes at its end, with the built-in
route and with the gateway prefix. -/
def healthFault? (g : GatewaySettings) (path : String) : Option Fault :=
  let trimmed := Text.trimEndOf '/' path.toList
  if path.toList.head? ≠ some '/' then some .noLeadingSlash
  else if trimmed = infoPath then some .takenPath
  else if g.pathPrefix.toList.head? = some '/' && isUnder g.normalizedPrefix trimmed then
    some (.underPrefix g.normalizedPrefix)
  else none

/-- The fault of a log level: the filter made from it must be well-formed, and readable at all. -/
def levelFault? [Log.Patterns] (level : String) : Option Fault :=
  match Log.Filter.parse (filterText level).toList with
  | .ok _ => none
  | .error cause => some (.notLogLevel level cause)

/-- The fault of the endpoint of the log collector. -/
def endpointFault? (endpoint : String) : Option Fault :=
  match Url.parse endpoint.toList with
  | .ok url => if url.isHttp then none else some (.unsupportedScheme url.scheme)
  | .error cause => some (.notUrl cause)

/-- The fault of a field, if it is at fault. -/
def fault? [Log.Patterns] (s : Settings) : SettingsField → Option Fault
  | .bindAddress => addressFault? s.listener.bindAddress
  | .maxConnections => zeroFault? s.listener.maxConnections
  | .peekTimeout => zeroFault? s.listener.peekTimeoutMs
  | .peekBuffer =>
    if s.listener.peekBufferBytes < prefaceSize then some .belowPreface else none
  | .gatewayPrefix => prefixFault? s.gateway
  | .healthPath => healthFault? s.gateway s.health.path
  | .requestTimeout => zeroFault? s.timeouts.requestSecs
  | .shutdownTimeout => zeroFault? s.timeouts.shutdownMs
  | .logLevel => levelFault? s.observability.logLevel
  | .metricsAddress =>
    if s.observability.metricsEnabled then addressFault? s.observability.metricsAddress else none
  | .endpoint =>
    if s.logShipping.enabled then endpointFault? s.logShipping.endpoint else none
  | .batchSize => if s.logShipping.enabled then zeroFault? s.logShipping.batchSize else none
  | .queueCapacity =>
    if s.logShipping.enabled then zeroFault? s.logShipping.queueCapacity else none

/-- All problems, in the order of the fields. -/
def problems [Log.Patterns] (s : Settings) : List Problem :=
  SettingsField.all.filterMap fun field => (s.fault? field).map (⟨field, ·⟩)

/-- Whether the settings are accepted. -/
def Valid [Log.Patterns] (s : Settings) : Prop := s.problems = []

instance [Log.Patterns] (s : Settings) : Decidable s.Valid :=
  inferInstanceAs (Decidable (s.problems = []))

end Settings

end ProtocolGateway

import ProtocolGateway.Json
import ProtocolGateway.Text.Blank

/-!
# Settings

Everything an operator can choose about the gateway, with the values that hold where nothing is
chosen. Durations are numbers of the unit that their names end in.
-/

namespace ProtocolGateway

/-- How the process runs. -/
inductive RunMode where
  /-- Logs down to debug events, whatever level is configured. -/
  | debug
  | release
deriving DecidableEq, Repr

/-- The word for a mode. -/
def RunMode.name : RunMode → String
  | .debug => "debug"
  | .release => "release"

/-- The listening socket and the look at the first bytes of a connection. -/
structure ListenerSettings where
  /-- The address to bind. -/
  bindAddress : String := "0.0.0.0:8080"
  /-- How many connections may be open at once. -/
  maxConnections : Nat := 10000
  /-- How long a connection may take until its protocol is known. -/
  peekTimeoutMs : Nat := 3000
  /-- How many bytes may be read until the protocol is known. -/
  peekBufferBytes : Nat := 1024
deriving DecidableEq, Repr

/-- The reserved part of the path space. -/
structure GatewaySettings where
  /-- The prefix of the paths that are forwarded to the gateway routes. -/
  pathPrefix : String := "/grpc"
deriving DecidableEq, Repr

/-- The readiness endpoint. -/
structure HealthSettings where
  /-- Its path. -/
  path : String := "/healthz"
deriving DecidableEq, Repr

/-- The time limits. -/
structure TimeoutSettings where
  /-- How long a request may take. -/
  requestSecs : Nat := 30
  /-- How long connections may take to finish at the end. -/
  shutdownMs : Nat := 5000
deriving DecidableEq, Repr

/-- The size limits. -/
structure LimitSettings where
  /-- The longest request body. -/
  maxBodyBytes : Nat := 2097152
deriving DecidableEq, Repr

/-- Logs and metrics. -/
structure ObservabilitySettings where
  /-- The level of the log. -/
  logLevel : String := "info"
  /-- Whether metrics are exposed. -/
  metricsEnabled : Bool := false
  /-- The address they are exposed at. -/
  metricsAddress : String := "0.0.0.0:9090"
deriving DecidableEq, Repr

/-- The log collector. -/
structure LogShippingSettings where
  /-- Whether log lines are sent to it. -/
  enabled : Bool := false
  /-- Its URL. -/
  endpoint : String := ""
  /-- How many lines go into one request. -/
  batchSize : Nat := 100
  /-- How long a line may wait until it is sent. -/
  flushIntervalMs : Nat := 1000
  /-- How many lines may wait. -/
  queueCapacity : Nat := 4096
deriving DecidableEq, Repr

/-- All settings. -/
structure Settings where
  mode : RunMode := .release
  listener : ListenerSettings := {}
  gateway : GatewaySettings := {}
  health : HealthSettings := {}
  timeouts : TimeoutSettings := {}
  limits : LimitSettings := {}
  observability : ObservabilitySettings := {}
  logShipping : LogShippingSettings := {}
deriving DecidableEq, Repr

/-- The prefix without the slashes at its end. -/
def GatewaySettings.trimmedPrefix (g : GatewaySettings) : List Char :=
  Text.trimEndOf '/' g.pathPrefix.toList

/-- The prefix as it is shown: a single slash if nothing else is left of it. -/
def GatewaySettings.normalizedPrefix (g : GatewaySettings) : List Char :=
  if g.trimmedPrefix.isEmpty then ['/'] else g.trimmedPrefix

/-- How long a request may take, in milliseconds. -/
def TimeoutSettings.requestMs (t : TimeoutSettings) : Nat := t.requestSecs * 1000

/-- The level that the log filter is made from: debug mode wins over the configured level. -/
def Settings.effectiveLogLevel (s : Settings) : String :=
  match s.mode with
  | .debug => "debug"
  | .release => s.observability.logLevel

/-- The text of the log filter for a level: it concerns the gateway itself and the layers around its
routes. -/
def filterText (level : String) : String :=
  "service_gateway=" ++ level ++ ",tower_http=" ++ level

/-- The settings as a document with one member for each section. -/
def Settings.toJson (s : Settings) : Json :=
  let num (n : Nat) : Json := .num n
  .obj [
    ("mode", .str s.mode.name),
    ("listener", .obj [
      ("bind_address", .str s.listener.bindAddress),
      ("max_connections", num s.listener.maxConnections),
      ("peek_timeout_ms", num s.listener.peekTimeoutMs),
      ("peek_buffer_bytes", num s.listener.peekBufferBytes)]),
    ("gateway", .obj [("prefix", .str s.gateway.pathPrefix)]),
    ("health", .obj [("path", .str s.health.path)]),
    ("timeouts", .obj [
      ("request_secs", num s.timeouts.requestSecs),
      ("shutdown_ms", num s.timeouts.shutdownMs)]),
    ("limits", .obj [("max_body_bytes", num s.limits.maxBodyBytes)]),
    ("observability", .obj [
      ("log_level", .str s.observability.logLevel),
      ("metrics_enabled", .bool s.observability.metricsEnabled),
      ("metrics_address", .str s.observability.metricsAddress)]),
    ("log_shipping", .obj [
      ("enabled", .bool s.logShipping.enabled),
      ("endpoint", .str s.logShipping.endpoint),
      ("batch_size", num s.logShipping.batchSize),
      ("flush_interval_ms", num s.logShipping.flushIntervalMs),
      ("queue_capacity", num s.logShipping.queueCapacity)])]

end ProtocolGateway

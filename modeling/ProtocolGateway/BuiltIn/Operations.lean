import ProtocolGateway.BuiltIn
import ProtocolGateway.Settings.Problem
import ProtocolGateway.Startup.Bootstrap

/-!
# Operations of the built-in modules

The telemetry module starts the exporter of the metrics before anything else comes up. The health
module answers with the readiness of the process, and the system module with what the process is, on
both route tables.

## Main definitions

* `BuiltInModule`: a built-in module of a process.
* `BuiltInModule.operate`: its operations.
-/

namespace ProtocolGateway

/-- A built-in module of a process. -/
structure BuiltInModule where
  kind : BuiltIn
  /-- Whether it was initialized. -/
  started : Bool := false
deriving DecidableEq, Repr

/-- The built-in modules in the order in which they are registered. -/
def BuiltInModule.registered : List BuiltInModule := BuiltIn.all.map fun kind => { kind }

/-- The path of the system module in the secondary table. -/
def gatewayInfoPath : List Char := "/v1/system/info".toList

/-- The hook that stops the exporter of the metrics. -/
def exporterHook : Hook := { name := "prometheus" }

/-- The status of an answer to a health check. -/
def Readiness.status (r : Readiness) : Nat := if r.isReady then 200 else 503

/-- Answers a health check. -/
def healthHandler : Handler := fun live _ =>
  { response := .json live.readiness.status (.obj [("status", .str live.readiness.name)]) }

/-- Answers a question on the process. -/
def infoHandler : Handler := fun live _ =>
  { response := .json 200 (.obj [
      ("name", .str programName), ("version", .str programVersion),
      ("mode", .str live.mode.name), ("uptime_secs", .num live.uptimeSecs)]) }

/-- A table with one route, which answers GET. -/
def Table.get? (path : List Char) (handler : Handler) : Option (Table Handler) :=
  Table.ofEntries? [{ path := some path, verb := some .get, endpoint := handler }]

namespace Context

variable {M : Type}

/-- Goes on with a context, unless the outcome ends it. -/
def andThen (next : Context M → Context M × Outcome) : Context M × Outcome → Context M × Outcome
  | (c, .done) => next c
  | (c, outcome) => (c, outcome)

/-- Starts the exporter of the metrics. Its socket is opened before it is known whether somebody
records metrics already, and closed again then. -/
def startExporter (address : SocketAddress) (c : Context M) : Context M × Outcome :=
  let failed (cause : String) : Context M × Outcome :=
    (c, .failed (.failed "install metrics exporter" cause))
  match c.host.bind address with
  | .error cause =>
    failed ("failed to build Prometheus exporter: failed to create HTTP listener: " ++
      cause.message)
  | .ok bound =>
    if c.recording then failed "a metrics recorder is already installed"
    else
      (({ c with recording := true, host := c.host.hold bound }.logs
        (.of .info "observability::metrics" "Metrics exporter listening")).setTelemetry
          exporterHook, .done)

/-- What the telemetry module does first. -/
def exportMetrics (c : Context M) : Context M × Outcome :=
  let s := c.settings.observability
  if !s.metricsEnabled then (c, .done)
  else match SocketAddress.parse? s.metricsAddress with
    | none =>
      (c, .failed (.failed "parse observability.metrics_address" SocketAddress.invalidMessage))
    | some address => c.startExporter address

/-- Adds the route of the health checks. -/
def routeHealth (c : Context M) : Context M × Outcome :=
  match Table.get? c.settings.health.path.toList healthHandler with
  | none => (c, .crashed)
  | some routes => c.routeHttp routes

/-- Adds the routes of the system module. -/
def routeInfo (c : Context M) : Context M × Outcome :=
  match Table.get? infoPath infoHandler, Table.get? gatewayInfoPath infoHandler with
  | some http, some gateway =>
    andThen (fun c => (c.listen .announcement, .done)) <|
      andThen (·.routeGateway gateway) (c.routeHttp http)
  | _, _ => (c, .crashed)

end Context

namespace BuiltInModule

variable {M : Type}

/-- Runs the operation of a built-in module for a phase. -/
def operate (phase : Phase) (m : BuiltInModule) (c : Context M) :
    BuiltInModule × Context M × Outcome :=
  match m.kind, phase with
  | .telemetry, .preInit => (m, c.exportMetrics)
  | .health, .load => (m, c.routeHealth)
  | .system, .init => ({ m with started := true }, c, .done)
  | .system, .load =>
    (m, if m.started then c.routeInfo else (c, .failed (.other "load ran before init")))
  | _, _ => (m, c, .done)

instance : Bootable BuiltInModule where
  name m := m.kind.name
  operate := operate

end BuiltInModule

end ProtocolGateway

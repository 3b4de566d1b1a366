import ProtocolGateway.Host
import ProtocolGateway.Http.Service
import ProtocolGateway.Log.Subscriber
import ProtocolGateway.Metrics
import ProtocolGateway.Settings.Watch
import ProtocolGateway.Startup.ModuleError
import ProtocolGateway.Startup.Phase
import ProtocolGateway.Teardown.Step
import ProtocolGateway.Traffic.Server

/-!
# The context of a process

What modules find when they come up and what they leave there: routes, listeners for new settings,
background tasks, and what has to be stopped at the end. The context also keeps a journal of what
happens in the course of a run.

What a module is, is left open.

## Main definitions

* `Context`: the context.
* `Happening`: the entries of the journal.
* `Context.deliver`: brings new settings to the listeners.
-/

namespace ProtocolGateway

/-- A task that runs in the background. -/
structure Task where
  name : String
  /-- Whether it goes on until the root scope is cancelled. -/
  waits : Bool := true
  /-- Whether a rehearsal started it. -/
  rehearsed : Bool := false
deriving DecidableEq, Repr

/-- Who is told of new settings. -/
inductive SettingsListener where
  /-- The log filter. -/
  | logFilter
  /-- Somebody who only writes it into the log. -/
  | announcement
  /-- Somebody who watches the deliveries. -/
  | observer (name : String)
deriving DecidableEq, Repr

/-- What happens in the course of a run. -/
inductive Happening where
  /-- The operation of the module at a place was begun, which saw the readiness. -/
  | operation (phase : Phase) (index : Nat) (seen : Readiness)
  /-- The listener at a place was told of settings, while others were current. -/
  | delivered (index : Nat) (listener : SettingsListener) (told current : Settings)
  /-- Something was stopped, and saw the readiness. -/
  | tornDown (step : TeardownStep) (hook : Hook) (seen : Readiness)
  | stoppedAccepting
  /-- All servers have drained. -/
  | drained (reports : List DrainReport)
  | cancelledRoot
  /-- A task has ended. -/
  | taskEnded (task : Task) (cancelled : Bool)
  /-- A module left a note. -/
  | noted (text : String)
deriving DecidableEq, Repr

/-- The context of a process, whose modules are of type `M`. -/
structure Context (M : Type) where
  /-- The current settings. -/
  settings : Settings := {}
  /-- The file that is watched for new settings. -/
  watched : Option WatchedFile := none
  /-- Whether the root scope is cancelled. -/
  cancelled : Bool := false
  modules : List M := []
  listeners : List SettingsListener := []
  /-- The routes of the primary table. -/
  http : Table Handler := {}
  /-- The routes of the secondary table. -/
  gateway : Table Handler := {}
  readiness : Readiness := .starting
  tasks : List Task := []
  telemetry : Option Hook := none
  auxiliary : List Hook := []
  sinks : List Hook := []
  host : Host := .willing
  /-- Whether somebody records metrics. -/
  recording : Bool := false
  metrics : Metrics := []
  /-- Who decides which events are shown. -/
  subscriber : Option Log.Subscriber := none
  log : List Log.Event := []
  /-- The lines that the log has shown. -/
  output : List String := []
  journal : List Happening := []

/-- The parts of the program that log what happens to a context. -/
def contextPart : String := "kernel::context"

/-- The part of the program that logs readiness. -/
def readinessPart : String := "health::readiness"

namespace Context

variable {M : Type}

/-! ### Journal and log -/

/-- Makes an entry in the journal. -/
def record (h : Happening) (c : Context M) : Context M := { c with journal := c.journal ++ [h] }

/-- The lines that an event adds to the output. -/
def shownLines (c : Context M) (e : Log.Event) : List String :=
  if c.subscriber.any (·.shows e) then [e.line] else []

/-- Logs an event. -/
def logs (e : Log.Event) (c : Context M) : Context M :=
  { c with log := c.log ++ [e], output := c.output ++ c.shownLines e }

/-! ### What modules leave -/

/-- Adds a module at the end. -/
def register (m : M) (c : Context M) : Context M := { c with modules := c.modules ++ [m] }

/-- Adds a listener for new settings at the end. -/
def listen (l : SettingsListener) (c : Context M) : Context M :=
  { c with listeners := c.listeners ++ [l] }

/-- Adds routes to the primary table, which stays as it is if they do not go together with it. -/
def routeHttp (routes : Table Handler) (c : Context M) : Context M × Outcome :=
  match c.http.merge routes with
  | .ok http => ({ c with http }, .done)
  | .error clash => (c, .failed (.routes clash.message))

/-- Adds routes to the secondary table, which stays as it is if they do not go together with it. -/
def routeGateway (routes : Table Handler) (c : Context M) : Context M × Outcome :=
  match c.gateway.merge routes with
  | .ok gateway => ({ c with gateway }, .done)
  | .error clash => (c, .failed (.routes clash.message))

/-- Starts a task. -/
def start (t : Task) (c : Context M) : Context M := { c with tasks := c.tasks ++ [t] }

/-- Sets the telemetry agent, of which there is one only. -/
def setTelemetry (h : Hook) (c : Context M) : Context M :=
  let c' := match c.telemetry with
    | none => c
    | some previous =>
      c.logs (.of .warn contextPart "Replacing telemetry agent" [("agent", .plain previous.name)])
  { c' with telemetry := some h }

/-- Adds a client of another service. -/
def addAuxiliary (h : Hook) (c : Context M) : Context M :=
  { c with auxiliary := c.auxiliary ++ [h] }

/-- Adds an output of the log. -/
def addSink (h : Hook) (c : Context M) : Context M := { c with sinks := c.sinks ++ [h] }

/-! ### State -/

/-- The severity at which a notice is logged. -/
def noticeLevel : Readiness.Notice → Log.Level
  | .ignored => .warn
  | _ => .info

/-- Sets the readiness flag. -/
def setReadiness (value : Bool) (c : Context M) : Context M :=
  let (readiness, notice) := c.readiness.set value
  let metrics := match notice.bind (·.gauge?) with
    | none => c.metrics
    | some n => c.metrics.set .ready n
  let changed := { c with readiness, metrics }
  match notice with
  | none => changed
  | some n => changed.logs (.of (noticeLevel n) readinessPart n.message)

/-- Cancels the root scope. -/
def cancel (c : Context M) : Context M := { c with cancelled := true }.record .cancelledRoot

/-- Whether a task goes on. -/
def goesOn (c : Context M) (t : Task) : Bool := t.waits && !c.cancelled

/-- Lets the tasks end that do not go on. -/
def settle (c : Context M) : Context M :=
  let ended := c.tasks.filter (!c.goesOn ·)
  { c with
    tasks := c.tasks.filter c.goesOn
    journal := c.journal ++ ended.map fun t => .taskEnded t c.cancelled }

/-! ### New settings -/

/-- Tells a listener of settings. -/
def tell [Log.Patterns] (told : Settings) (index : Nat) (l : SettingsListener) (c : Context M) :
    Context M :=
  let c := c.record (.delivered index l told c.settings)
  match l with
  | .logFilter =>
    match c.subscriber with
    | none => c
    | some s =>
      let (s, event) := s.apply told
      { c with subscriber := some s }.logs event
  | .announcement =>
    c.logs (.of .info "modules::system" "Configuration reloaded"
      [("mode", .quoted told.mode.name), ("log_level", .quoted told.effectiveLogLevel)])
  | .observer _ => c

/-- Makes settings the current ones and then tells the listeners in their order. -/
def deliver [Log.Patterns] (listeners : List SettingsListener) (s : Settings) (c : Context M) :
    Context M :=
  let told := listeners.zipIdx.foldl (fun c (l, i) => c.tell s i l) { c with settings := s }
  told.logs (.of .info contextPart "Configuration change delivered"
    [("listeners", .number listeners.length)])

end Context

end ProtocolGateway

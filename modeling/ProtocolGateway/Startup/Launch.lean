import ProtocolGateway.Http.Stack
import ProtocolGateway.Startup.Bootstrap
import ProtocolGateway.Traffic.Connections
import ProtocolGateway.Traffic.Demultiplexer

/-!
# Launch

A process is launched by bringing up its modules, opening the listening socket, building the two
stacks out of the routes that the modules left, and watching the settings file. It is ready after
all of that. What the stacks and the drain at the end depend on is fixed then; new settings change
the current settings only.

## Main definitions

* `Gateway`: a launched process.
* `Context.launch`: launches it.
* `Gateway.respond`: answers a request.
* `Gateway.notice`: takes notice of an event in the directory of the settings file.
-/

namespace ProtocolGateway

/-- The settings file that a process watches and whom it tells of new settings. -/
structure Watch where
  file : WatchedFile
  listeners : List SettingsListener

/-- A launched process. -/
structure Gateway (M : Type) where
  context : Context M
  /-- The address of the listening socket. -/
  address : SocketAddress
  /-- What finds the protocol of a connection. -/
  demultiplexer : Demultiplexer
  /-- How long it may take until the protocol of a connection is known. A client that is silent for
  longer is dropped. -/
  peekTimeoutMs : Nat
  /-- The two stacks that answer requests. -/
  serving : Stacks
  traffic : Traffic
  watch : Option Watch
  /-- How long connections may take to finish at the end. -/
  shutdownMs : Nat

/-- Why a launch fails. -/
inductive LaunchError where
  | bootstrap (error : BootstrapError)
  | listen (error : ListenError)
  | crashed
deriving DecidableEq, Repr

/-- The task that watches the settings file. -/
def watcherTask : Task := { name := "config-watcher" }

/-- The reason for which a file in a missing directory cannot be watched. -/
def noDirectoryMessage (f : WatchedFile) : String :=
  "No path was found. about [" ++ Text.quoted f.directory.toList ++ "]"

namespace Context

variable {M : Type}

/-- Starts to watch the settings file, if there is one. The listeners are moved out of the
context. -/
def watch (c : Context M) : Context M × Option Watch :=
  let rest := { c with listeners := [] }
  match c.watched with
  | none => (rest, none)
  | some file =>
    (rest.start { watcherTask with waits := file.directoryExists }, some ⟨file, c.listeners⟩)

/-- The task that watches the settings file ends by itself. -/
def endWatch (c : Context M) : Context M :=
  { c with tasks := c.tasks.map fun t =>
      if t = watcherTask then { t with waits := false } else t }

/-- What is logged of a file that cannot be watched. -/
def logUnwatched (c : Context M) : Context M :=
  match c.watched with
  | none => c
  | some file =>
    if file.directoryExists then c
    else c.logs (.of .warn startupPart "Config hot reload disabled"
      [("path", .plain file.path), ("error", .plain (noDirectoryMessage file))])

/-- The event that tells of a launch. -/
def listeningEvent (c : Context M) (serving : Stacks) : Log.Event :=
  .of .info startupPart "Service gateway listening"
    [("mode", .quoted c.settings.mode.name),
      ("gateway_prefix", .quoted (String.ofList serving.reserved)),
      ("max_connections", .number c.settings.listener.maxConnections),
      ("modules", .number c.modules.length)]

/-- Starts to serve, once the modules are up. -/
def serve (c : Context M) : Context M × Except LaunchError (Gateway M) :=
  let s := c.settings
  match c.host.openSlots s.listener.bindAddress s.listener.maxConnections with
  | .error (.listen e) => (c, .error (.listen e))
  | .error .slots => (c, .error .crashed)
  | .ok address =>
    match Stacks.build? s c.http c.gateway with
    | none => (c, .error .crashed)
    | some serving =>
      let (watching, watch) :=
        { c with http := {}, gateway := {}, host := c.host.hold address }.watch
      let ready := ((watching.logs (c.listeningEvent serving)).setReadiness true).logUnwatched
      (ready, .ok {
        context := ready, address, serving, watch
        demultiplexer := .ofSettings s.listener
        peekTimeoutMs := s.listener.peekTimeoutMs
        traffic := .ofSlots s.listener.maxConnections (Matcher.registered.map (·.name))
        shutdownMs := s.timeouts.shutdownMs })

/-- Launches a process: the modules are brought up, and then it serves. If that fails, the context
is as it was left. -/
def launch [Bootable M] (c : Context M) : Context M × Except LaunchError (Gateway M) :=
  match c.bootstrap with
  | (c, some (.failed e)) => (c, .error (.bootstrap e))
  | (c, some .crashed) => (c, .error .crashed)
  | (c, none) => c.serve

end Context

namespace Gateway

variable {M : Type}

/-- What handlers can ask the process. -/
def live (g : Gateway M) : Live :=
  { readiness := g.context.readiness, mode := g.context.settings.mode }

/-- Which of the two stacks a request is for. -/
inductive Entrance where
  | primary
  | secondary
deriving DecidableEq, Repr

/-- Answers a request. -/
def respond (entrance : Entrance) (ids : FreshIds) (g : Gateway M) : Service :=
  match entrance with
  | .primary => g.serving.primary g.live ids
  | .secondary => g.serving.secondary g.live ids

/-- Answers a request and counts what is to be counted. -/
def answer (entrance : Entrance) (ids : FreshIds) (request : Request) (g : Gateway M) :
    Gateway M × Reply :=
  let reply := g.respond entrance ids request
  ({ g with context := { g.context with metrics := g.context.metrics.addReply reply } }, reply)

/-- All that was counted. -/
def metrics (g : Gateway M) : Metrics := g.context.metrics ++ g.traffic.metrics

/-- Whether changes of the settings file are noticed. -/
def watches (g : Gateway M) : Bool :=
  g.watch.any (·.file.directoryExists) && !g.context.cancelled

/-- Takes notice of an event in the directory of the settings file. Settings that can be loaded
become the current ones, and the listeners are told. If the watcher crashes, nothing is noticed any
more. -/
def notice [Log.Patterns] (e : FileEvent) (g : Gateway M) : Gateway M :=
  match g.watch with
  | none => g
  | some w =>
    if !g.watches then g
    else
      let noticed := (w.file.notices e).foldl (fun c event => c.logs event) g.context
      if w.file.breaksOn e then { g with watch := none, context := noticed.endWatch }
      else match w.file.accepts? e with
        | none => { g with context := noticed }
        | some s => { g with context := noticed.deliver w.listeners s }

/-- Lets something happen to the connections. -/
def advance (steps : List TrafficStep) (g : Gateway M) : Gateway M :=
  { g with traffic := g.traffic.run steps }

end Gateway

end ProtocolGateway

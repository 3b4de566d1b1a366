import ProtocolGateway.BuiltIn.Operations
import ProtocolGateway.Rehearsal.Handlers

/-!
# Scripted modules

A module whose operations are lists of actions, with which a run can be rehearsed. An operation
leaves a note, performs its actions, and ends with the first one that fails.

## Main definitions

* `RehearsalModule`: a built-in module or a scripted one.
* `Action`: what a scripted module can do.
* `Action.perform`: does it.
-/

namespace ProtocolGateway

mutual

/-- A module of a rehearsal. -/
inductive RehearsalModule where
  | builtIn (module : BuiltInModule)
  /-- A module with a script. It may have no operation but that of the load phase. -/
  | scripted (name : String) (loadsOnly : Bool) (script : Phase → List Action)

/-- What a scripted module can do. -/
inductive Action where
  /-- Adds routes to the primary table; a failure may be noted only. -/
  | routeHttp (routes : List (RouteEntry Handler)) (catches : Bool)
  /-- Adds routes to the secondary table; a failure may be noted only. -/
  | routeGateway (routes : List (RouteEntry Handler)) (catches : Bool)
  /-- Listens to new settings. -/
  | observe (name : String)
  /-- Starts a task, which may wait for the root scope. -/
  | start (name : String) (waits : Bool)
  /-- Leaves something to be stopped at the end. -/
  | hook (step : TeardownStep) (name : String) (failure : Option String)
  | register (module : RehearsalModule)
  | ready (value : Bool)
  | cancelRoot
  /-- Makes settings the current ones without telling anybody. -/
  | store (settings : Settings)
  /-- Notes what the context looks like. -/
  | inspect
  | fail (error : ModuleError)

end

/-- The word for a kind of failure. -/
def ModuleError.kind : ModuleError → String
  | .settings _ => "config"
  | .io _ => "io"
  | .failed .. => "failed"
  | .routes _ => "routes"
  | .other _ => "message"

/-- The word for the operation of a phase. -/
def Phase.operationName : Phase → String
  | .preInit => "pre_init"
  | .init => "init"
  | .postInit => "post_init"
  | .load => "load"
  | .start => "start"

namespace Context

variable {M : Type}

/-- Leaves a note. -/
def note (text : String) (c : Context M) : Context M := c.record (.noted text)

/-- Notes what the context looks like. -/
def noteState (c : Context M) : Context M :=
  c.note ("inspect modules=" ++ toString c.modules.length ++ " tasks=" ++ toString c.tasks.length ++
    " ready=" ++ c.readiness.name ++ " root_cancelled=" ++ toString c.cancelled ++
    " mode=" ++ c.settings.mode.name ++ " path=" ++ toString c.watched.isSome)

/-- Turns a failure into a note. -/
def caught : Context M × Outcome → Context M × Outcome
  | (c, .failed e) => (c.note ("caught " ++ e.kind ++ ": " ++ e.message), .done)
  | (c, outcome) => (c, outcome)

/-- Adds the routes of a list, which has to be a table by itself. -/
def addRoutes (add : Table Handler → Context M → Context M × Outcome)
    (routes : List (RouteEntry Handler)) (catches : Bool) (c : Context M) : Context M × Outcome :=
  match Table.ofEntries? routes with
  | none => (c, .crashed)
  | some table => if catches then caught (add table c) else add table c

end Context

namespace Action

/-- Performs an action. -/
def perform (c : Context RehearsalModule) : Action → Context RehearsalModule × Outcome
  | .routeHttp routes catches => c.addRoutes Context.routeHttp routes catches
  | .routeGateway routes catches => c.addRoutes Context.routeGateway routes catches
  | .observe name => (c.listen (.observer name), .done)
  | .start name waits => (c.start { name, waits, rehearsed := true }, .done)
  | .hook step name failure =>
    let h : Hook := { name, failure, rehearsed := true }
    match step with
    | .telemetry => (c.setTelemetry h, .done)
    | .auxiliary => (c.addAuxiliary h, .done)
    | .logSink => (c.addSink h, .done)
  | .register m => (c.register m, .done)
  | .ready value => (c.setReadiness value, .done)
  | .cancelRoot => (c.cancel, .done)
  | .store settings => ({ c with settings }, .done)
  | .inspect => (c.noteState, .done)
  | .fail e => (c, .failed e)

/-- Performs actions until one fails. -/
def performAll (c : Context RehearsalModule) : List Action → Context RehearsalModule × Outcome
  | [] => (c, .done)
  | a :: rest =>
    match a.perform c with
    | (c, .done) => performAll c rest
    | (c, outcome) => (c, outcome)

end Action

namespace RehearsalModule

/-- The name of a module. -/
def name : RehearsalModule → String
  | .builtIn m => m.kind.name
  | .scripted name _ _ => name

/-- Runs the operation of a module for a phase. -/
def operate (phase : Phase) (m : RehearsalModule) (c : Context RehearsalModule) :
    RehearsalModule × Context RehearsalModule × Outcome :=
  match m with
  | .builtIn b =>
    let (b, c, outcome) := b.operate phase c
    (.builtIn b, c, outcome)
  | .scripted name loadsOnly script =>
    if loadsOnly && phase ≠ .load then (m, c, .done)
    else (m, Action.performAll (c.note (phase.operationName ++ " " ++ name)) (script phase))

instance : Bootable RehearsalModule where
  name := name
  operate := operate

end RehearsalModule

end ProtocolGateway

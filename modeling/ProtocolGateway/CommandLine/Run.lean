import ProtocolGateway.BuiltIn.Operations
import ProtocolGateway.CommandLine.Arguments
import ProtocolGateway.Shipping.Shipper
import ProtocolGateway.Teardown.Shutdown

/-!
# Commands

What the commands of the program do, apart from reading arguments and printing: the settings of a
file are checked, or a process with the built-in modules is launched with them and serves until a
signal comes.

## Main definitions

* `Surroundings`: what the program finds around it.
* `Exit`: how it ends, and what it has written until then.
* `Command.run`: runs a command.
-/

namespace ProtocolGateway

/-- What the program finds around it. -/
structure Surroundings where
  /-- What a path leads to. -/
  read : String → FileContent
  host : Host := .willing
  /-- The log filter in the environment. -/
  environment : Option String := none
  /-- The signal that ends the process. -/
  signal : Option Signal := none

/-- How the program ends, and what it has written until then. -/
structure Exit where
  code : Nat
  output : List String := []
  errors : List String := []
deriving DecidableEq, Repr

/-- The wording of a launch error. -/
def LaunchError.message : LaunchError → String
  | .bootstrap e => e.message
  | .listen e => e.message
  | .crashed => "crashed"

namespace Exit

/-- The code of success. -/
def success : Nat := 0

/-- The code of failure. -/
def failure : Nat := 1

/-- The code of arguments that make no sense. -/
def misuse : Nat := 2

/-- The code of a crash. -/
def crash : Nat := 101

/-- The end of a program that got no command. -/
def ofUsage : Usage → Exit
  | .help => { code := success }
  | .misuse => { code := misuse }

end Exit

namespace Command

/-- The directory of a path, with the slash after it, and the rest of the path. -/
def splitPath (path : String) : String × String :=
  let back := path.toList.reverse
  let name := (back.takeWhile (· ≠ '/')).reverse
  (String.ofList (back.dropWhile (· ≠ '/')).reverse, String.ofList name)

/-- The settings file at a path. -/
def watchedFile (path : String) : WatchedFile :=
  let (directory, name) := splitPath path
  { directory, name }

/-- Checks the settings of a file. -/
def runCheck [Log.Patterns] (path : String) (content : FileContent) : Exit :=
  match Settings.load content with
  | .ok s =>
    { code := Exit.success
      output := [path ++ ": OK (listener " ++ s.listener.bindAddress ++ ", gateway prefix " ++
        String.ofList s.gateway.normalizedPrefix ++ ")"] }
  | .error e =>
    if e.crashes then { code := Exit.crash }
    else { code := Exit.failure, errors := [path ++ ": " ++ e.message] }

/-- The hook that closes the shipper of log lines. -/
def shipperHook : Hook := { name := "log-shipper" }

/-- The hook that stops the log. -/
def logHook : Hook := { name := "subscriber" }

/-- What is logged first. -/
def startingEvent (path : String) (s : Settings) : Log.Event :=
  { level := .info, target := Log.rootTarget, message := programName ++ " starting"
    fields := [("version", .quoted programVersion), ("config", .plain path),
      ("mode", .quoted s.mode.name), ("bind_address", .plain s.listener.bindAddress)] }

/-- What is logged of the shipper. -/
def shippingEvents (s : Settings) : List Log.Event :=
  if s.logShipping.enabled then
    match Url.parse s.logShipping.endpoint.toList with
    | .ok url =>
      [{ level := .info, target := Log.rootTarget, message := "Log shipping enabled"
         fields := [("endpoint", .plain (String.ofList url.render))] }]
    | .error _ => []
  else []

/-- What is logged of a launch that failed. -/
def startupFailedEvent (e : LaunchError) : Log.Event :=
  { level := .error, target := Log.rootTarget, message := "Startup failed"
    fields := [("error", .plain e.message)] }

/-- What is logged at the end of a step that failed. -/
def stepFailedEvent (f : StepFailure) : Log.Event :=
  { level := .warn, target := Log.rootTarget, message := "Teardown step failed"
    fields := [("step", .quoted f.step.name), ("hook", .plain f.hook), ("error", .plain f.error)] }

/-- The context of a process with the built-in modules. -/
def serverContext (around : Surroundings) (path : String) (s : Settings)
    (subscriber : Log.Subscriber) : Context BuiltInModule :=
  { settings := s
    watched := some (watchedFile path)
    modules := BuiltInModule.registered
    listeners := [.logFilter]
    sinks := [logHook]
    auxiliary := if s.logShipping.enabled then [shipperHook] else []
    host := around.host
    subscriber := some subscriber }

/-- Serves with settings until the signal comes. -/
def serve (around : Surroundings) (path : String) (s : Settings) (subscriber : Log.Subscriber) :
    Exit :=
  let events := startingEvent path s :: shippingEvents s
  let c := events.foldl (fun c e => c.logs e) (serverContext around path s subscriber)
  match c.launch with
  | (c, .error .crashed) => { code := Exit.crash, output := c.output }
  | (c, .error e) => { code := Exit.failure, output := (c.logs (startupFailedEvent e)).output }
  | (_, .ok gateway) =>
    let (gateway, report) := gateway.runUntil around.signal []
    let c := report.failures.foldl (fun c f => c.logs (stepFailedEvent f)) gateway.context
    { code := Exit.success, output := c.output }

/-- Whether lines are to be shipped with the settings of a file, but there cannot be the queue that
they ask for. -/
def lacksQueue [Log.Patterns] (around : Surroundings) (path : String) : Bool :=
  match Settings.load (around.read path) with
  | .error _ => false
  | .ok s => s.logShipping.enabled && !s.logShipping.queueFits

/-- Serves with the settings of a file, once there is a queue if lines are to be shipped. -/
def runServer [Log.Patterns] (around : Surroundings) (path : String) : Exit :=
  match Settings.load (around.read path) with
  | .error e =>
    if e.crashes then { code := Exit.crash }
    else
      { code := Exit.failure
        errors := ["Failed to load configuration from " ++ path ++ ": " ++ e.message] }
  | .ok s =>
    match Log.Subscriber.ofSettings around.environment s with
    | .error .crashed => { code := Exit.crash }
    | .error e =>
      { code := Exit.failure
        errors := ["Failed to initialize logging: invalid log filter: " ++ e.message] }
    | .ok subscriber => serve around path s subscriber

/-- Runs a command. A server without the queue for its log lines crashes before it logs anything. -/
def run [Log.Patterns] (around : Surroundings) : Command → Exit
  | .server path =>
    if lacksQueue around path then { code := Exit.crash } else runServer around path
  | .check path => runCheck path (around.read path)
  | .version => { code := Exit.success, output := [programName ++ " " ++ programVersion] }

end Command

/-- Reads the arguments and runs the command. -/
def Exit.ofArguments [Log.Patterns] (around : Surroundings) (arguments : List String) : Exit :=
  match Command.parse arguments with
  | .error usage => .ofUsage usage
  | .ok command => command.run around

end ProtocolGateway

import ProtocolGateway.Log.Subscriber
import ProtocolGateway.Shipping.Collector
import ProtocolGateway.Shipping.Line
import ProtocolGateway.Shipping.Shipper

/-!
# Rehearsals of the log

What a log shows and ships in the course of a process, without the process: a subscriber is
installed and told of settings, sample events are logged, and a shipper whose collector cannot be
reached is stopped.

## Main definitions

* `LoggingRehearsal`: the state of the log.
* `LoggingRehearsal.perform`: does a step.
-/

namespace ProtocolGateway

/-- The state of a log. -/
structure LoggingRehearsal where
  /-- The filter in the environment. -/
  environment : Option String
  subscriber : Option Log.Subscriber := none
  /-- The shipper with the URL of its collector. -/
  shipper : Option (Url × Shipper (List Char)) := none

namespace LoggingRehearsal

/-- What can be done with a log. -/
inductive Step where
  /-- The subscriber of settings is installed. -/
  | install (settings : Settings)
  /-- The subscriber is told of settings. -/
  | apply (settings : Settings)
  /-- Sample events are logged. -/
  | emit
  /-- The log is stopped. -/
  | stop
  /-- The shipper is closed. -/
  | close

/-- What comes of a step. -/
inductive StepResult where
  | done
  | installed
  /-- The level is no filter. -/
  | badFilter (cause : Log.FilterError)
  /-- There is a subscriber already. -/
  | alreadyInstalled
  /-- The log output of this name was stopped. -/
  | stopped (name : String)
  | closed

/-- The targets of the sample events. -/
def sampleTargets : List String :=
  [Log.rootTarget, Log.rootTarget ++ "::net", Log.rootTarget ++ "x", "tower_http::trace", "other",
    Shipping.target]

/-- The sample events: for each target one of each level, with the initial of its word. -/
def sampleEvents : List Log.Event :=
  sampleTargets.flatMap fun target => Log.Level.all.map fun level =>
    { level, target, message := (level.word.take 1).toString
      fields := [("n", .number level.rank)] }

/-- The name of the log output. -/
def outputName : String := "subscriber"

/-- Logs an event: shows it, and hands it to the shipper. -/
def log (e : Log.Event) (r : LoggingRehearsal) : LoggingRehearsal × List String :=
  if r.subscriber.any (·.shows e) then
    let shipper := r.shipper.map fun (url, s) =>
      (url, if Shipping.ships e then s.write e.toJson.render else s)
    ({ r with shipper }, [e.line])
  else (r, [])

/-- Logs events one after another. -/
def logAll (r : LoggingRehearsal) : List Log.Event → LoggingRehearsal × List String
  | [] => (r, [])
  | e :: events =>
    let (r, lines) := r.log e
    let (r, more) := logAll r events
    (r, lines ++ more)

/-- What is logged when the shipper goes from one state to another. -/
def shipperEvents (url : Url) (before after : Shipper (List Char)) : List Log.Event :=
  let posted := (after.posted.drop before.posted.length).filter (!·.delivered)
  posted.map (fun b => Shipping.notDeliveredEvent url b.lines.length) ++
    if before.stage ≠ .ended && after.stage = .ended then [Shipping.stoppedEvent url] else []

/-- Closes the shipper, which posts what it has. -/
def close (r : LoggingRehearsal) : LoggingRehearsal × List String :=
  match r.shipper with
  | none => (r, [])
  | some (url, s) =>
    let after := (s.step .close).settle false
    { r with shipper := some (url, after) }.logAll (shipperEvents url s after)

/-- Performs a step; the lines are what the log shows of it. -/
def perform [Log.Patterns] (r : LoggingRehearsal) :
    Step → LoggingRehearsal × StepResult × List String
  | .install settings =>
    match Log.Subscriber.ofSettings r.environment settings with
    | .error cause => (r, .badFilter cause, [])
    | .ok s =>
      if r.subscriber.isSome then (r, .alreadyInstalled, [])
      else ({ r with subscriber := some s }, .installed, [])
  | .apply settings =>
    match r.subscriber with
    | none => (r, .done, [])
    | some s =>
      let (s, event) := s.apply settings
      let (r, lines) := { r with subscriber := some s }.log event
      (r, .done, lines)
  | .emit =>
    let (r, lines) := r.logAll sampleEvents
    (r, .done, lines)
  | .stop =>
    match r.subscriber with
    | none => (r, .done, [])
    | some _ =>
      ({ r with shipper := r.shipper.map fun (url, s) => (url, s.step .closeWriter) },
        .stopped outputName, [])
  | .close =>
    let (r, lines) := r.close
    (r, .closed, lines)

/-- What comes of each of a list of steps, with the lines that the log shows. -/
def run [Log.Patterns] (r : LoggingRehearsal) : List Step → List (StepResult × List String)
  | [] => []
  | step :: steps =>
    let (r, result, lines) := r.perform step
    (result, lines) :: run r steps

end LoggingRehearsal

end ProtocolGateway

import ProtocolGateway.Signal
import ProtocolGateway.Startup.Launch
import ProtocolGateway.Teardown.Stage
import ProtocolGateway.Text.Duration
import ProtocolGateway.Total

/-!
# Shutdown

A process stops in a fixed order: it is no longer ready; the telemetry agent, the clients of other
services and the outputs of the log are stopped; no more connections are accepted; the servers
drain; and the root scope is cancelled. A step that fails is noted and changes nothing else.

## Main definitions

* `Gateway.tearDown`: stops hooks.
* `Gateway.drain`: lets the servers finish.
* `Gateway.shutdown`: the whole of it.
-/

namespace ProtocolGateway

/-- What is told of a shutdown. -/
structure ShutdownReport where
  stage : Stage
  /-- The steps that failed, in their order. -/
  failures : List StepFailure
  /-- A report of each server. -/
  drains : List DrainReport
deriving DecidableEq, Repr

/-- How many connections were cut off. -/
def ShutdownReport.forced (r : ShutdownReport) : Nat := total (r.drains.map (·.forced))

/-- The part of the program that stops it. -/
def shutdownPart : String := "lifecycle::shutdown"

/-- What is logged when the process comes to another stage. -/
def Stage.event (a b : Stage) : Log.Event :=
  .of .info shutdownPart "Shutdown state" [("from", .plain a.name), ("to", .plain b.name)]

/-- What is logged of a step. -/
def TeardownStep.event (step : TeardownStep) (h : Hook) : Log.Event :=
  match h.failure with
  | none =>
    .of .info shutdownPart "Shutdown step complete"
      [("step", .quoted step.name), ("hook", .quoted h.name)]
  | some error =>
    .of .warn shutdownPart "Shutdown step failed, continuing"
      [("step", .quoted step.name), ("hook", .quoted h.name), ("error", .plain error)]

namespace Context

variable {M : Type}

/-- Stops something. -/
def tearDown (step : TeardownStep) (c : Context M) (h : Hook) : Context M :=
  (c.record (.tornDown step h c.readiness)).logs (step.event h)

/-- Stops all that modules left to be stopped: the telemetry agent, then the clients of other
services, then the outputs of the log, each of them once. -/
def tearDownAll (c : Context M) : Context M :=
  let hooks := { c with telemetry := none, auxiliary := [], sinks := [] }
  let agent := c.telemetry.toList.foldl (tearDown .telemetry) hooks
  let clients := c.auxiliary.foldl (tearDown .auxiliary) agent
  c.sinks.foldl (tearDown .logSink) clients

/-- The steps that fail when all is stopped. -/
def teardownFailures (c : Context M) : List StepFailure :=
  failuresOf .telemetry c.telemetry.toList ++ failuresOf .auxiliary c.auxiliary ++
    failuresOf .logSink c.sinks

end Context

namespace Gateway

variable {M : Type}

/-- The number of servers. -/
def serverCount (g : Gateway M) : Nat := g.traffic.servers.length

/-- The steps that begin the drain: no more connections are accepted, and the servers are told to
stop. -/
def drainSteps (g : Gateway M) : List TrafficStep :=
  .stopAccepting :: (List.range g.serverCount).map .stop

/-- The steps that end the drain at the deadline. -/
def deadlineSteps (g : Gateway M) : List TrafficStep := (List.range g.serverCount).map .expire

/-- Lets the servers finish. What happens to the connections `meanwhile`, until the deadline,
counts only if there is time at all: under a cancelled root scope the deadline is reached at
once. -/
def drain (meanwhile : List TrafficStep) (g : Gateway M) : Gateway M :=
  let begun := g.advance g.drainSteps
  let finished := if g.context.cancelled then begun else begun.advance meanwhile
  finished.advance g.deadlineSteps

/-- What is logged when the servers begin to drain. -/
def drainEvent (g : Gateway M) : Log.Event :=
  .of .info shutdownPart "Draining HTTP servers"
    [("timeout", .plain (Text.duration g.shutdownMs)), ("servers", .number g.serverCount)]

/-- What is logged at the end. -/
def completeEvent (r : ShutdownReport) : Log.Event :=
  .of .info shutdownPart "Shutdown complete"
    [("failures", .number r.failures.length),
      ("forced_connections", .number r.forced)]

/-- Changes the context. -/
def mapContext (f : Context M → Context M) (g : Gateway M) : Gateway M :=
  { g with context := f g.context }

/-- Stops the process. `meanwhile` is what happens to the connections while the servers drain. -/
def shutdown (meanwhile : List TrafficStep) (g : Gateway M) : Gateway M × ShutdownReport :=
  let draining := g.mapContext fun c =>
    (((c.logs (Stage.event .serving .draining)).setReadiness false).tearDownAll).record
      .stoppedAccepting
  let drained := (draining.mapContext (·.logs g.drainEvent)).drain meanwhile
  let drains := drained.traffic.reports
  let report : ShutdownReport := ⟨.stopped, g.context.teardownFailures, drains⟩
  (drained.mapContext fun c =>
    ((((c.record (.drained drains)).cancel).settle).logs (Stage.event .draining .stopped)).logs
      (completeEvent report), report)

/-- What is logged of the signal that a process waited for. -/
def signalEvent : Option Signal → Log.Event
  | some s => .of .info startupPart "Termination signal received" [("signal", .plain s.name)]
  | none =>
    .of .error startupPart "Failed to listen for signals, shutting down"
      [("error", .plain "no signals")]

/-- Stops the process after a signal, or because no signal can be waited for. -/
def runUntil (signal : Option Signal) (meanwhile : List TrafficStep) (g : Gateway M) :
    Gateway M × ShutdownReport :=
  (g.mapContext (·.logs (signalEvent signal))).shutdown meanwhile

end Gateway

end ProtocolGateway

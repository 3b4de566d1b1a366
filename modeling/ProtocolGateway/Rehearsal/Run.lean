import ProtocolGateway.Rehearsal.Script
import ProtocolGateway.Teardown.Shutdown

/-!
# Rehearsals

A rehearsal takes a process from its context through launch and shutdown, step by step, and tells
after each step what has come of it. Clients do not get through to a rehearsed process.

## Main definitions

* `Rehearsal`: how far a rehearsal has come.
* `Step`, `StepResult`: what can be done, and what comes of it.
* `Rehearsal.perform`: does a step.
* `Rehearsal.shownSince`: what was to be seen since an earlier moment.
-/

namespace ProtocolGateway

/-- How far a rehearsal has come. -/
inductive Rehearsal where
  /-- The process has not been launched. -/
  | prepared (context : Context RehearsalModule)
  | serving (gateway : Gateway RehearsalModule)
  /-- The launch failed. -/
  | failed (context : Context RehearsalModule)
  | stopped (gateway : Gateway RehearsalModule)

namespace Rehearsal

/-- What clients try. None of them gets through. -/
inductive Attempt where
  /-- Sends something and waits for an answer. -/
  | exchange
  /-- Opens a connection. -/
  | connect
  /-- Closes a connection. -/
  | close
  /-- Waits until a connection is closed. -/
  | awaitClose
  /-- Sends a request and does not wait for the answer; it may wait until a handler has it. -/
  | begin (id : String) (awaitsHandler : Bool)
  /-- Waits for the answer to a request. -/
  | finish (id : String)
  /-- Lets a handler go on. -/
  | release
deriving DecidableEq, Repr

/-- What can be done in a rehearsal. -/
inductive Step where
  | bootstrap
  | launch
  | act (action : Action)
  | attempt (attempt : Attempt)
  /-- The settings file is replaced. -/
  | reload (content : FileContent)
  /-- Something else happens in the directory of the settings file. -/
  | disturb (event : FileEvent)
  | shutdown
  /-- Waits for a signal and shuts down. -/
  | runUntil (signal : Option Signal)
  | metrics
  /-- Asks the exporter for the metrics. -/
  | scrape

/-- What comes of a step. -/
inductive StepResult where
  | done
  /-- There is no context to act on. -/
  | noContext
  | notRunning
  | notWatching
  | actionFailed (error : ModuleError)
  | launchFailed (error : LaunchError)
  | launched (ready : Bool)
  | reloaded (changed : Bool) (current : Settings)
  | stopped (report : ShutdownReport)
  | metrics (metrics : Metrics)
  /-- The client did not get through. -/
  | refused
  | answer (value : Bool)
  | released
  /-- There is no such connection. -/
  | unknown

/-- The context, as far as it is known or was known last. -/
def context : Rehearsal → Context RehearsalModule
  | .prepared c => c
  | .serving g => g.context
  | .failed c => c
  | .stopped g => g.context

/-- Whether the context can be looked at. -/
def isOpen : Rehearsal → Bool
  | .prepared _ => true
  | .serving _ => true
  | _ => false

/-- Whether an action can be performed while the process serves. -/
def actsWhileServing : Action → Bool
  | .start .. => true
  | .ready _ => true
  | .cancelRoot => true
  | .store _ => true
  | .inspect => true
  | _ => false

/-- What comes of an action. -/
def outcomeResult : Outcome → StepResult
  | .done => .done
  | .failed e => .actionFailed e
  | .crashed => .launchFailed .crashed

/-- What comes of the end of a bootstrap. -/
def haltResult : Option Halt → StepResult
  | none => .done
  | some (.failed e) => .launchFailed (.bootstrap e)
  | some .crashed => .launchFailed .crashed

/-- Performs an action. -/
def act (a : Action) (r : Rehearsal) : Rehearsal × StepResult :=
  match r with
  | .prepared c =>
    let (c, outcome) := a.perform c
    (.prepared c, outcomeResult outcome)
  | .serving g =>
    if actsWhileServing a then
      let (c, outcome) := a.perform g.context
      (.serving { g with context := c }, outcomeResult outcome)
    else (r, .noContext)
  | _ => (r, .noContext)

/-- What comes of an attempt, `begun` being the requests whose answers nobody has waited for. -/
def attemptResult (begun : List String) : Attempt → StepResult
  | .exchange => .refused
  | .connect => .answer false
  | .close => .answer false
  | .awaitClose => .unknown
  | .begin _ awaitsHandler => .answer (!awaitsHandler)
  | .finish id => if begun.contains id then .refused else .unknown
  | .release => .released

/-- The requests whose answers nobody has waited for, after an attempt. -/
def begunAfter (begun : List String) : Attempt → List String
  | .begin id _ => id :: begun
  | .finish id => begun.erase id
  | _ => begun

/-- Lets the tasks end that do not go on. -/
def settle : Rehearsal → Rehearsal
  | .prepared c => .prepared c.settle
  | .serving g => .serving (g.mapContext (·.settle))
  | r => r

/-- Performs a step. -/
def perform [Log.Patterns] (begun : List String) (r : Rehearsal) (step : Step) :
    Rehearsal × StepResult :=
  match step, r with
  | .bootstrap, .prepared c =>
    let (c, halt) := c.bootstrap
    (.prepared c, haltResult halt)
  | .launch, .prepared c =>
    match c.launch with
    | (c, .error e) => (.failed c, .launchFailed e)
    | (_, .ok g) => (.serving g, .launched g.context.readiness.isReady)
  | .act a, r => r.act a
  | .attempt .release, r => (r, .released)
  | .attempt a, .serving g => (.serving g, attemptResult begun a)
  | .attempt a, .stopped g => (.stopped g, attemptResult begun a)
  | .reload content, .serving g =>
    match g.context.watched with
    | none => (r, .notWatching)
    | some file =>
      if !file.directoryExists then (r, .notWatching)
      else
        let after := g.notice ⟨file.name, .modified, content⟩
        let current := after.context.settings
        (.serving after, .reloaded (g.context.settings ≠ current) current)
  | .reload _, r => (r, .notWatching)
  | .disturb event, .serving g => (.serving (g.notice event), .done)
  | .disturb _, r => (r, .done)
  | .shutdown, .serving g =>
    let (g, report) := g.shutdown []
    (.stopped g, .stopped report)
  | .runUntil signal, .serving g =>
    let (g, report) := g.runUntil signal []
    (.stopped g, .stopped report)
  | .shutdown, r => (r, .notRunning)
  | .runUntil _, r => (r, .notRunning)
  | .metrics, .serving g => (.serving g, .metrics g.metrics)
  | .metrics, .stopped g => (.stopped g, .metrics g.metrics)
  | .metrics, r => (r, .metrics r.context.metrics)
  | .scrape, r => (r, .refused)
  | _, r => (r, .noContext)

/-- The states and results of a list of steps. -/
def run [Log.Patterns] (begun : List String) (r : Rehearsal) :
    List Step → List (Rehearsal × StepResult)
  | [] => []
  | step :: steps =>
    let (r, result) := r.perform begun step
    let begun := match step with
      | .attempt a => begunAfter begun a
      | _ => begun
    (r.settle, result) :: run begun r.settle steps

/-! ### What is to be seen -/

/-- The word for the kind of a teardown step. -/
def hookWord : TeardownStep → String
  | .telemetry => "telemetry"
  | .auxiliary => "auxiliary"
  | .logSink => "sink"

/-- The settings of which the listener at a place was told last. -/
def lastTold (index : Nat) (journal : List Happening) : Option Settings :=
  journal.reverse.findSome? fun h => match h with
    | .delivered i _ told _ => if i = index then some told else none
    | _ => none

/-- What is to be seen of an entry of the journal, after those before it. An observer shows only
settings that are different from those he was told before. -/
def shown? (before : List Happening) : Happening → Option String
  | .delivered index (.observer name) told _ =>
    if lastTold index before = some told then none
    else some ("config " ++ name ++ " " ++ told.mode.name ++ "/" ++ told.effectiveLogLevel ++ "/" ++
      told.health.path)
  | .tornDown step hook seen =>
    if hook.rehearsed then some (hookWord step ++ " " ++ hook.name ++ " " ++ seen.name) else none
  | .noted text => some text
  | _ => none

/-- What is to be seen of the end of a task. -/
def taskShown? : Happening → Option String
  | .taskEnded task cancelled =>
    if task.rehearsed then
      some ("task " ++ task.name ++ " done cancelled=" ++ toString cancelled)
    else none
  | _ => none

/-- What is to be seen of the entries that were made after the first `seen` ones: the ends of tasks
last and in alphabetical order. -/
def shownSince (seen : Nat) (journal : List Happening) : List String :=
  let places := (List.range (journal.length - seen)).map (· + seen)
  let others := places.filterMap fun i => (journal[i]?).bind (shown? (journal.take i))
  others ++ ((journal.drop seen).filterMap taskShown?).mergeSort (· ≤ ·)

end Rehearsal

end ProtocolGateway

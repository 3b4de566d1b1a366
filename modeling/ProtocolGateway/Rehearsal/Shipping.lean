import ProtocolGateway.Shipping.Line
import ProtocolGateway.Shipping.Shipper

/-!
# Rehearsals of the shipper

Lines are written to a shipper whose collector cannot be reached. Its batcher has begun before the
first line is written, and works whenever somebody waits for it.

## Main definitions

* `ShippingRehearsal.perform`: does a step.
* `ShippingRehearsal.rehearse`: does a list of steps.
-/

namespace ProtocolGateway.ShippingRehearsal

/-- A shipper of text lines. -/
abbrev Lines := Shipper (List Char)

/-- What can be done with a shipper. -/
inductive Step where
  /-- Writers write what they have to say of one event each. -/
  | write (events : List Bytes)
  /-- Somebody waits until so many batches have arrived, for as long as he has patience. -/
  | await (batches : Nat)
  | closeWriter
  | close
deriving DecidableEq, Repr

/-- What comes of a step. -/
inductive StepResult where
  | done
  /-- Whether the batches have arrived. -/
  | arrived (all : Bool)
  | closed
deriving DecidableEq, Repr

/-- How many milliseconds somebody has patience. -/
def patienceMs : Nat := 10000

/-- A writer writes what it has to say of an event. -/
def writeEvent (s : Lines) (written : Bytes) : Lines :=
  match Shipping.lineOf? written with
  | none => s
  | some line => s.write line

/-- Lets the batcher work while somebody waits: its clock may tick meanwhile. -/
def wait (intervalMs : Nat) (s : Lines) : Lines :=
  let worked := s.settle false
  if intervalMs < patienceMs then (worked.step .tick).settle false else worked

/-- Performs a step with a shipper whose clock ticks in an interval. No batch ever arrives. -/
def perform (intervalMs : Nat) (s : Lines) : Step → Lines × StepResult
  | .write events => (events.foldl writeEvent s, .done)
  | .await batches =>
    (if batches = 0 then s.settle false else wait intervalMs s, .arrived (batches = 0))
  | .closeWriter => (s.step .closeWriter, .done)
  | .close => ((s.step .close).settle false, .closed)

/-- The states and results of a list of steps. -/
def run (intervalMs : Nat) (s : Lines) : List Step → List (Lines × StepResult)
  | [] => []
  | step :: steps =>
    let (s, result) := perform intervalMs s step
    (s, result) :: run intervalMs s steps

/-- The states and results of a list of steps with a shipper whose batcher begins first. -/
def rehearse (intervalMs : Nat) (s : Lines) : List Step → List (Lines × StepResult) :=
  run intervalMs (s.step .start)

end ProtocolGateway.ShippingRehearsal

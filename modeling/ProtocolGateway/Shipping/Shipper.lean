import ProtocolGateway.Host
import ProtocolGateway.Metrics
import ProtocolGateway.Settings

/-!
# The shipper

Log lines go through a bounded queue to a batcher, which posts them in batches. A writer first looks
whether the shipper is open and then puts its line into the queue, without waiting: if the queue is
full or gone, the line is lost and counted. The batcher posts a batch when it is full or when its
clock ticks. Told to stop, it posts what the queue holds. Once it has found the queue empty and has
posted its last batch, it does not look there again, but the queue takes lines until it ends.

Before anything else the batcher reserves room for a batch. If there cannot be so much room, it
crashes, and nobody posts anything. If there cannot be a queue of the capacity that is asked for,
there is no shipper at all.

Writers, the batcher, its clock and whoever closes the shipper work side by side; a list of steps is
one order in which they may do so. A step that is not possible where it stands changes nothing. What
a line is, is left open.

## Main definitions

* `Shipper`: the queue with the batcher.
* `Shipper.open?`: makes a shipper with settings.
* `ShipperStep`: what can happen.
* `Shipper.run`: the state after a list of steps.
* `Shipper.settle`: what the batcher does if nobody interferes.
-/

namespace ProtocolGateway

/-- The limits of a shipper, which are at least one each. -/
structure ShipperLimits where
  /-- How many lines a batch has at most. -/
  batchSize : Nat
  /-- How many lines the queue holds at most. -/
  capacity : Nat
  batchSize_pos : 0 < batchSize
  capacity_pos : 0 < capacity

/-- The limits of settings, where zero counts as one. -/
def ShipperLimits.ofSettings (s : LogShippingSettings) : ShipperLimits where
  batchSize := max 1 s.batchSize
  capacity := max 1 s.queueCapacity
  batchSize_pos := Nat.le_max_left ..
  capacity_pos := Nat.le_max_left ..

/-- Whether there can be a queue as long as settings ask for. Each line in it takes a slot. -/
def LogShippingSettings.queueFits (s : LogShippingSettings) : Bool :=
  max 1 s.queueCapacity ≤ maxSlots

/-- For how many lines room can be reserved: a line takes 24 octets, and all of them together take
less than half of the addresses of 64 bits. -/
def maxRoom : Nat := 9223372036854775807 / 24

/-- What the batcher is about. -/
inductive BatcherStage where
  /-- It has not begun. -/
  | starting
  /-- It waits for lines, its clock or the stop. -/
  | collecting
  /-- A batch is being posted, after which it collects. -/
  | posting
  /-- It takes what the queue holds. -/
  | draining
  /-- A batch is being posted, after which it goes on to drain. -/
  | drainPosting
  /-- The last batch is being posted. -/
  | lastPosting
  /-- It has posted all that it is going to post. -/
  | ending
  | ended
  /-- It could not begin. -/
  | crashed
deriving DecidableEq, Repr

/-- Whether there is no batcher any more, so that nobody takes lines. -/
def BatcherStage.isGone : BatcherStage → Bool
  | .ended | .crashed => true
  | _ => false

/-- A batch that was posted. -/
structure PostedBatch (α : Type) where
  lines : List α
  /-- Whether the collector accepted it. -/
  delivered : Bool
deriving DecidableEq, Repr

/-- The queue with the batcher. -/
structure Shipper (α : Type) where
  limits : ShipperLimits
  /-- Whether writers may queue lines. -/
  isOpen : Bool := true
  /-- Whether the batcher was told to stop. -/
  stopping : Bool := false
  /-- The lines of the writers that found the shipper open and have not queued them yet. -/
  inHand : List α := []
  queue : List α := []
  /-- The lines of the next batch. -/
  batch : List α := []
  stage : BatcherStage := .starting
  posted : List (PostedBatch α) := []
  /-- The lines that the queue did not take. -/
  refused : List α := []
  /-- The lines that were in the queue when the batcher ended or crashed. -/
  left : List α := []
  /-- How often delivery failed, and how many lines were lost by that. -/
  metrics : Metrics := []

/-- What can happen. -/
inductive ShipperStep (α : Type) where
  /-- A writer with a line looks whether the shipper is open. -/
  | look (line : α)
  /-- The writer that is at this place among those with a line in hand queues it. -/
  | enqueue (place : Nat)
  /-- The batcher begins. -/
  | start
  /-- The batcher takes a line out of the queue, or finds it empty when it drains. -/
  | receive
  /-- The clock ticks. -/
  | tick
  /-- The collector answers, or cannot be reached. -/
  | answered (delivered : Bool)
  /-- Writers are kept from queueing more lines. -/
  | closeWriter
  /-- The shipper is closed. -/
  | close
  /-- The batcher notices that it is to stop. -/
  | notice
  /-- The batcher ends. -/
  | finish
deriving DecidableEq, Repr

namespace Shipper

variable {α : Type}

/-- A shipper with settings. -/
def ofSettings (s : LogShippingSettings) : Shipper α := { limits := .ofSettings s }

/-- Makes a shipper with settings, if there can be a queue as long as they ask for. -/
def open? (s : LogShippingSettings) : Option (Shipper α) :=
  if s.queueFits then some (ofSettings s) else none

/-- Whether the queue takes a line. -/
def takes (s : Shipper α) : Bool := !s.stage.isGone && s.queue.length < s.limits.capacity

/-- Puts a line into the queue, or loses it. -/
def offer (line : α) (s : Shipper α) : Shipper α :=
  if s.takes then { s with queue := s.queue ++ [line] }
  else { s with refused := s.refused ++ [line], metrics := s.metrics.addShippingFailure 1 }

/-- Adds a line to the batch, and posts that if it is full. -/
def addToBatch (line : α) (full : BatcherStage) (s : Shipper α) : Shipper α :=
  let batch := s.batch ++ [line]
  { s with batch, stage := if s.limits.batchSize ≤ batch.length then full else s.stage }

/-- The batcher is gone, and with it what is in the queue. -/
def leave (gone : BatcherStage) (s : Shipper α) : Shipper α :=
  { s with stage := gone, queue := [], left := s.queue }

/-- The batcher reserves room for a batch and begins, if it can. -/
def start (s : Shipper α) : Shipper α :=
  if s.limits.batchSize ≤ maxRoom then { s with stage := .collecting } else s.leave .crashed

/-- The batcher takes a line out of the queue, or finds it empty when it drains. -/
def receive (s : Shipper α) : Shipper α :=
  match s.stage, s.queue with
  | .collecting, line :: queue => { s with queue }.addToBatch line .posting
  | .draining, line :: queue => { s with queue }.addToBatch line .drainPosting
  | .draining, [] => { s with stage := if s.batch.isEmpty then .ending else .lastPosting }
  | _, _ => s

/-- The batch was posted. -/
def recordBatch (delivered : Bool) (s : Shipper α) : Shipper α :=
  { s with
    batch := []
    posted := s.posted ++ [⟨s.batch, delivered⟩]
    metrics := if delivered then s.metrics else s.metrics.addShippingFailure s.batch.length }

/-- The collector answers, or cannot be reached. A batch that was not delivered is not posted
again. -/
def answered (delivered : Bool) (s : Shipper α) : Shipper α :=
  match s.stage with
  | .posting => { s.recordBatch delivered with stage := .collecting }
  | .drainPosting => { s.recordBatch delivered with stage := .draining }
  | .lastPosting => { s.recordBatch delivered with stage := .ending }
  | _ => s

/-- Performs a step. -/
def step (s : Shipper α) : ShipperStep α → Shipper α
  | .look line => if s.isOpen then { s with inHand := s.inHand ++ [line] } else s
  | .enqueue place =>
    match s.inHand[place]? with
    | none => s
    | some line => { s with inHand := s.inHand.eraseIdx place }.offer line
  | .start => if s.stage = .starting then s.start else s
  | .receive => s.receive
  | .tick =>
    if s.stage = .collecting && !s.batch.isEmpty then { s with stage := .posting } else s
  | .answered delivered => s.answered delivered
  | .closeWriter => { s with isOpen := false }
  | .close => { s with isOpen := false, stopping := true }
  | .notice => if s.stage = .collecting && s.stopping then { s with stage := .draining } else s
  | .finish => if s.stage = .ending then s.leave .ended else s

/-- The state after a list of steps. -/
def run (s : Shipper α) (steps : List (ShipperStep α)) : Shipper α := steps.foldl step s

/-! ### Without interference -/

/-- A writer queues a line without anybody coming in between. -/
def write (line : α) (s : Shipper α) : Shipper α :=
  if s.isOpen then s.offer line else s

/-- What the batcher does next if nothing else happens; it may have nothing to do. -/
def next? (reached : Bool) (s : Shipper α) : Option (ShipperStep α) :=
  match s.stage with
  | .starting => some .start
  | .collecting =>
    if s.stopping then some .notice else if s.queue.isEmpty then none else some .receive
  | .draining => some .receive
  | .ending => some .finish
  | .ended | .crashed => none
  | _ => some (.answered reached)

/-- Lets the batcher work for a number of steps at most. -/
def work (reached : Bool) : Nat → Shipper α → Shipper α
  | 0, s => s
  | steps + 1, s =>
    match s.next? reached with
    | none => s
    | some step => work reached steps (s.step step)

/-- Lets the batcher work until it waits. Every line in the queue takes two steps at most. -/
def settle (reached : Bool) (s : Shipper α) : Shipper α :=
  s.work reached (2 * s.queue.length + 5)

/-- How often delivery failed. -/
def failures (s : Shipper α) : Nat := (s.metrics.value? .shippingFailures).getD 0

/-- How many lines were lost. -/
def lostLines (s : Shipper α) : Nat := (s.metrics.value? .droppedLines).getD 0

end Shipper

end ProtocolGateway

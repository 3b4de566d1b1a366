import ProtocolGateway.Metrics
import ProtocolGateway.Peek.Reading
import ProtocolGateway.Settings

/-!
# Demultiplexer

Every accepted connection is read until its protocol is known and handed to the handler of that
protocol, or dropped. Which of these happened is counted.

## Main definitions

* `Demultiplexer.fate`: what becomes of a connection.
* `Fate.metric`: the counter that tells it.
* `Demultiplexer.run`: the fates of connections one after another.
-/

namespace ProtocolGateway

/-- What a client does with its connection. -/
structure Client where
  /-- All that it sends. -/
  bytes : Bytes
  /-- How it ends. -/
  ending : Ending
  /-- The sizes of the pieces in which the network delivers it. -/
  choices : List Nat := []
deriving DecidableEq, Repr

/-- Takes connections apart by their protocol. -/
structure Demultiplexer where
  /-- The matchers, each with a handler. -/
  matchers : List Matcher
  /-- How many bytes may be read until the protocol is known. -/
  limit : Nat

/-- What becomes of a connection. -/
inductive Fate where
  /-- It is closed before its protocol is known. -/
  | dropped (reason : DropReason)
  /-- It is handed to the handler of its protocol, which reads the stream from its start. -/
  | handed (index : Nat) (stream : ReplayedStream)
  /-- Its protocol is known, but the handler does not listen any more. -/
  | unwanted (index : Nat)
deriving DecidableEq, Repr

namespace Demultiplexer

/-- The demultiplexer of a gateway. -/
def ofSettings (s : ListenerSettings) : Demultiplexer := ⟨Matcher.registered, s.peekBufferBytes⟩

/-- The label of a matcher. -/
def label (d : Demultiplexer) (index : Nat) : String := ((d.matchers[index]?).map (·.name)).getD ""

/-- What becomes of a connection; `listens` says which handlers still listen. -/
def fate (d : Demultiplexer) (listens : Nat → Bool) (client : Client) : Fate :=
  match Peek.read d.matchers d.limit client.ending client.choices [] client.bytes with
  | .dropped reason => .dropped reason
  | .matched index buffered rest =>
    if listens index then .handed index { buffered, socket := rest } else .unwanted index

/-- The counter that tells the fate of a connection. -/
def metric (d : Demultiplexer) : Fate → Metric
  | .dropped reason => .droppedConnections reason.label
  | .handed index _ => .connections (d.label index)
  | .unwanted index => .connections (d.label index)

/-- The fates of connections that come one after another, and what is counted. -/
def run (d : Demultiplexer) (listens : Nat → Bool) (metrics : Metrics) :
    List Client → List Fate × Metrics
  | [] => ([], metrics)
  | client :: clients =>
    let fate := d.fate listens client
    let (fates, metrics) := d.run listens (metrics.add (d.metric fate) 1) clients
    (fate :: fates, metrics)

end Demultiplexer

end ProtocolGateway

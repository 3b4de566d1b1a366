import ProtocolGateway.Proofs.Peek.Decision
import ProtocolGateway.Traffic.Demultiplexer

/-!
# A handler reads what the client sent

The first bytes of a connection are read twice: once for the decision, and once more by the handler
that gets the connection. The handler must not notice: what it reads is what the client sent, from
the first byte to the last, whatever the sizes of its buffers and of the pieces that the network
delivers, and whatever it writes meanwhile.

The invariant is that what has been read and what remains to be read make up the same bytes at any
time. It starts with the decision, where nothing has been read by the handler yet.

## Main definitions

* `StreamEvent.inputs`, `StreamEvent.outputs`: what a handler has read and written altogether.

## Main results

* `ReplayedStream.inputs_append_remaining`: what was read and what remains.
* `ReplayedStream.read_eq_nil_iff`: when a read gives nothing.
* `Demultiplexer.handed_stream_replays`: a handler reads what the client sent.
-/

namespace ProtocolGateway

namespace StreamStep

/-- Whether the step is a read. -/
def isRead : StreamStep → Bool
  | .read .. => true
  | .write .. => false

end StreamStep

namespace StreamEvent

/-- Whether the event belongs to a read. -/
def isReceived : StreamEvent → Bool
  | .received _ => true
  | .sent .. => false

/-- The bytes of an event that were read. -/
def input : StreamEvent → Bytes
  | .received bytes => bytes
  | .sent .. => []

/-- The bytes of an event that were written: those of the offered ones that were taken. -/
def output : StreamEvent → Bytes
  | .received _ => []
  | .sent offered count => offered.take count

/-- All that was read, in order. -/
def inputs (events : List StreamEvent) : Bytes := events.flatMap input

/-- All that was written, in order. -/
def outputs (events : List StreamEvent) : Bytes := events.flatMap output

@[simp] theorem inputs_nil : inputs [] = [] := rfl

@[simp] theorem inputs_cons (e : StreamEvent) (events : List StreamEvent) :
    inputs (e :: events) = e.input ++ inputs events := rfl

@[simp] theorem outputs_nil : outputs [] = [] := rfl

@[simp] theorem outputs_cons (e : StreamEvent) (events : List StreamEvent) :
    outputs (e :: events) = e.output ++ outputs events := rfl

end StreamEvent

namespace ReplayedStream

open StreamEvent

variable (s : ReplayedStream) (step : StreamStep) (steps : List StreamStep)

/-! ### One step -/

theorem read_append_remaining (size choice : Nat) :
    (s.read size choice).1 ++ (s.read size choice).2.remaining = s.remaining := by
  rw [read]
  split
  · next h =>
    rw [List.isEmpty_iff] at h
    simp [remaining, h]
  · simp [remaining, ← List.append_assoc]

/-- **A read that gives nothing.** Unless it asks for nothing, there is nothing left to read: the
replayed bytes and those on the way are not told apart. -/
theorem read_eq_nil_iff {size : Nat} (hsize : 0 < size) (choice : Nat) :
    (s.read size choice).1 = [] ↔ s.remaining = [] := by
  have hne : size ≠ 0 := Nat.ne_of_gt hsize
  rw [read]
  split
  · next h =>
    rw [List.isEmpty_iff] at h
    simp [remaining, h, receive_eq_nil_iff, hne]
  · next h =>
    have h : s.buffered ≠ [] := by simpa using h
    simp [remaining, h, hne]

/-- What a step reads is taken from what remains. -/
theorem input_append_remaining :
    (s.step step).1.input ++ (s.step step).2.remaining = s.remaining := by
  cases step with
  | read size choice => exact read_append_remaining s size choice
  | write pieces choice => rfl

theorem written_read (size choice : Nat) : (s.read size choice).2.written = s.written := by
  rw [read]
  split <;> rfl

/-- What a step writes is added to what the client gets. -/
theorem written_step : (s.step step).2.written = s.written ++ (s.step step).1.output := by
  cases step with
  | read size choice =>
    rw [ReplayedStream.step, written_read, output, List.append_nil]
  | write pieces choice =>
    rw [ReplayedStream.step, write, output, List.length_take, ← List.take_eq_take_min]

/-! ### What is written does not matter for what is read -/

/-- Two connections of which the same is to be read. -/
structure SameInput (s t : ReplayedStream) : Prop where
  buffered : s.buffered = t.buffered
  socket : s.socket = t.socket

variable {s} {t : ReplayedStream}

theorem SameInput.read (h : SameInput s t) (size choice : Nat) :
    (s.read size choice).1 = (t.read size choice).1 ∧
      SameInput (s.read size choice).2 (t.read size choice).2 := by
  rw [ReplayedStream.read, ReplayedStream.read, h.buffered, h.socket]
  split
  · exact ⟨rfl, rfl, rfl⟩
  · exact ⟨rfl, rfl, rfl⟩

theorem SameInput.write (h : SameInput s t) (pieces : List Bytes) (choice : Nat) :
    SameInput (s.write pieces choice).2 t :=
  ⟨h.buffered, h.socket⟩

/-- Leaving out the writes changes no read. -/
theorem SameInput.run (h : SameInput s t) (steps : List StreamStep) :
    (s.run steps).1.filter isReceived = (t.run (steps.filter StreamStep.isRead)).1 ∧
      SameInput (s.run steps).2 (t.run (steps.filter StreamStep.isRead)).2 := by
  induction steps generalizing s t with
  | nil => exact ⟨rfl, h⟩
  | cons e steps ih =>
    cases e with
    | read size choice =>
      obtain ⟨hbytes, hafter⟩ := h.read size choice
      obtain ⟨hevents, hend⟩ := ih hafter
      refine ⟨?_, hend⟩
      rw [List.filter_cons_of_pos rfl, ReplayedStream.run, ReplayedStream.run,
        List.filter_cons_of_pos rfl]
      simp only [ReplayedStream.step, hbytes, hevents]
    | write pieces choice =>
      obtain ⟨hevents, hend⟩ := ih (h.write pieces choice)
      rw [List.filter_cons_of_neg (by simp [StreamStep.isRead])]
      refine ⟨?_, hend⟩
      rw [ReplayedStream.run, List.filter_cons_of_neg (by simp [ReplayedStream.step, isReceived])]
      exact hevents

variable (s)

/-! ### A whole run -/

/-- **What was read and what remains** are the bytes that there were to read. -/
theorem inputs_append_remaining :
    inputs (s.run steps).1 ++ (s.run steps).2.remaining = s.remaining := by
  induction steps generalizing s with
  | nil => rfl
  | cons e steps ih =>
    rw [run, inputs_cons, List.append_assoc, ih, input_append_remaining]

theorem written_run : (s.run steps).2.written = s.written ++ outputs (s.run steps).1 := by
  induction steps generalizing s with
  | nil => exact (List.append_nil _).symm
  | cons e steps ih => rw [run, ih, written_step, outputs_cons, List.append_assoc]

end ReplayedStream

namespace Demultiplexer

open StreamEvent

variable {d : Demultiplexer} {listens : Nat → Bool} {client : Client} {index : Nat}
variable {stream : ReplayedStream}

/-- A connection is handed over with all that its client sent, and before anything is written. -/
theorem remaining_of_fate_eq_handed (h : d.fate listens client = .handed index stream) :
    stream.remaining = client.bytes ∧ stream.written = [] := by
  rw [fate] at h
  split at h
  · simp at h
  · next i buffered rest hread =>
    split at h
    · obtain ⟨-, rfl⟩ : i = index ∧ (⟨buffered, rest, []⟩ : ReplayedStream) = stream := by
        simpa using h
      exact ⟨(Peek.append_of_read_eq_matched hread).1, rfl⟩
    · simp at h

/-- **A handler reads what the client sent.** Whatever a handler has done with its connection, it
has read an initial segment of what the client sent; its next read of at least one byte gives
nothing exactly if that was all; it would have read the same without its writes; and the client has
got what was taken of the writes, in their order. -/
theorem handed_stream_replays (h : d.fate listens client = .handed index stream)
    (steps : List StreamStep) :
    inputs (stream.run steps).1 <+: client.bytes ∧
    (∀ size choice, 0 < size → (((stream.run steps).2.read size choice).1 = [] ↔
      inputs (stream.run steps).1 = client.bytes)) ∧
    (stream.run steps).1.filter isReceived = (stream.run (steps.filter StreamStep.isRead)).1 ∧
    (stream.run steps).2.written = outputs (stream.run steps).1 := by
  obtain ⟨hall, hnone⟩ := remaining_of_fate_eq_handed h
  have hsplit : inputs (stream.run steps).1 ++ (stream.run steps).2.remaining = client.bytes :=
    (stream.inputs_append_remaining steps).trans hall
  refine ⟨⟨_, hsplit⟩, fun size choice hsize => ?_, ?_, ?_⟩
  · rw [ReplayedStream.read_eq_nil_iff _ hsize, ← hsplit, List.self_eq_append_right]
  · exact (ReplayedStream.SameInput.run ⟨rfl, rfl⟩ steps).1
  · rw [stream.written_run steps, hnone, List.nil_append]

/-- Buffers of no size, too small and too large, with a write in between: the client is read to its
end. -/
theorem handed_stream_replays_get :
    (⟨[.http1], 16⟩ : Demultiplexer).fate (fun _ => true) ⟨bytesOf "GET /x", .closed, [3, 2]⟩ =
      .handed 0 ⟨bytesOf "GET /", bytesOf "x", []⟩ ∧
    inputs ((⟨bytesOf "GET /", bytesOf "x", []⟩ : ReplayedStream).run
      [.read 0 9, .read 3 1, .write [bytesOf "a", bytesOf "bc"] 2, .read 9 1, .read 9 9]).1 =
        bytesOf "GET /x" := by
  have h : (⟨[.http1], 16⟩ : Demultiplexer).fate (fun _ => true)
      ⟨bytesOf "GET /x", .closed, [3, 2]⟩ = .handed 0 ⟨bytesOf "GET /", bytesOf "x", []⟩ := by
    decide +kernel
  refine ⟨h, ((handed_stream_replays h _).2.1 8 8 (by decide)).1 ?_⟩
  decide +kernel

end Demultiplexer

end ProtocolGateway

import ProtocolGateway.Peek.Matcher

/-!
# Reading the first bytes

A connection is read until its protocol is decided, in pieces that the network chooses, and at most
up to a limit. The bytes that were read go along with the connection and are read again by the
handler of the protocol, before those that are still on the way.

## Main definitions

* `receive`: a read of what a client sends.
* `Peek.next`, `Peek.read`: reads until the protocol is decided.
* `ReplayedStream`: a connection with the bytes that were read of it.
* `ReplayedStream.run`: what a handler does with it.
-/

namespace ProtocolGateway

/-- What is noticed after the last byte of a client. -/
inductive Ending where
  /-- The client has closed its side. -/
  | closed
  /-- The client keeps the connection open and sends nothing more. -/
  | silent
  /-- The connection breaks. -/
  | reset
deriving DecidableEq, Repr

/-- Why a connection is dropped before a handler sees it. -/
inductive DropReason where
  /-- No matcher accepts it. -/
  | noMatch
  /-- The limit of bytes is reached. -/
  | bufferFull
  /-- The client closed before the decision. -/
  | closed
  /-- The client sent too little in time. -/
  | timeout
  /-- Reading failed. -/
  | io
deriving DecidableEq, Repr

/-- The label of a reason in metrics. -/
def DropReason.label : DropReason → String
  | .noMatch => "no_match"
  | .bufferFull => "buffer_full"
  | .closed => "closed"
  | .timeout => "timeout"
  | .io => "io"

/-- Takes at most `want` of the bytes that are on the way. The network chooses how many come at
once: at least one, unless none is asked for or none is left. -/
def receive (want choice : Nat) (socket : Bytes) : Bytes × Bytes :=
  let count := min want (max 1 choice)
  (socket.take count, socket.drop count)

section receive

variable {want choice : Nat} {socket : Bytes}

@[simp] theorem receive_append (want choice : Nat) (socket : Bytes) :
    (receive want choice socket).1 ++ (receive want choice socket).2 = socket :=
  List.take_append_drop ..

theorem length_receive_le : (receive want choice socket).1.length ≤ want := by
  simp only [receive, List.length_take]
  omega

theorem receive_eq_nil_iff : (receive want choice socket).1 = [] ↔ want = 0 ∨ socket = [] := by
  rw [receive, List.take_eq_nil_iff]
  refine or_congr_left ?_
  omega

theorem length_receive_lt (h : (receive want choice socket).1 ≠ []) :
    (receive want choice socket).2.length < socket.length := by
  have hpos := List.length_pos_iff.2 h
  have hsum := congrArg List.length (receive_append want choice socket)
  rw [List.length_append] at hsum
  omega

end receive

namespace Peek

/-- The largest piece that is asked for at once. -/
def pieceSize : Nat := 256

/-- How the reading of the first bytes ends. -/
inductive Result where
  /-- The matcher at this place wins; `buffered` has been read, and `rest` is still on the way. -/
  | matched (index : Nat) (buffered rest : Bytes)
  | dropped (reason : DropReason)
deriving DecidableEq, Repr

/-- What a missing byte means. -/
def endReason : Ending → DropReason
  | .closed => .closed
  | .silent => .timeout
  | .reset => .io

/-- What is to be done with the bytes read so far. -/
inductive Next where
  /-- The matcher at this place wins. -/
  | matched (index : Nat)
  | dropped (reason : DropReason)
  /-- At most so many more bytes are asked for. -/
  | ask (want : Nat)
deriving DecidableEq, Repr

/-- What is to be done with the bytes read so far: as long as the matchers need more of them, and
the limit is not reached, more are asked for. -/
def next (matchers : List Matcher) (limit : Nat) (buffered : Bytes) : Next :=
  match classify matchers buffered with
  | .matched index => .matched index
  | .rejected => .dropped .noMatch
  | .incomplete =>
    if limit ≤ buffered.length then .dropped .bufferFull
    else .ask (min (limit - buffered.length) pieceSize)

/-- Reads until the matchers decide, `buffered` being what has been read and `rest` what is on the
way. The network chooses the size of each piece from `choices`, and then delivers all that is asked
for. A read that gives nothing is taken for the end of what the client sends. -/
def read (matchers : List Matcher) (limit : Nat) (ending : Ending) (choices : List Nat)
    (buffered rest : Bytes) : Result :=
  match next matchers limit buffered with
  | .matched index => .matched index buffered rest
  | .dropped reason => .dropped reason
  | .ask want =>
    let got := receive want (choices.headD want) rest
    if got.1 = [] then .dropped (endReason ending)
    else read matchers limit ending choices.tail (buffered ++ got.1) got.2
termination_by rest.length
decreasing_by exact length_receive_lt ‹_›

end Peek

/-- A connection whose first bytes were read already: they are read again before the rest. -/
structure ReplayedStream where
  /-- The bytes to be read again. -/
  buffered : Bytes
  /-- The bytes still on the way. -/
  socket : Bytes
  /-- What has been written to the client. -/
  written : Bytes := []
deriving DecidableEq, Repr

namespace ReplayedStream

/-- Reads into a buffer of size `size`. As long as bytes are left to be read again, only those are
read; after them the network delivers what it chooses. -/
def read (size choice : Nat) (s : ReplayedStream) : Bytes × ReplayedStream :=
  if s.buffered.isEmpty then
    let got := receive size choice s.socket
    (got.1, { s with socket := got.2 })
  else (s.buffered.take size, { s with buffered := s.buffered.drop size })

/-- Writes pieces that are to follow each other; a plain write has one piece. The network takes as
many of the bytes as it chooses, and that number is told. -/
def write (pieces : List Bytes) (choice : Nat) (s : ReplayedStream) : Nat × ReplayedStream :=
  let taken := pieces.flatten.take choice
  (taken.length, { s with written := s.written ++ taken })

/-- All that is still to be read. -/
def remaining (s : ReplayedStream) : Bytes := s.buffered ++ s.socket

end ReplayedStream

/-- What a handler does with its connection. -/
inductive StreamStep where
  /-- It reads into a buffer of some size, and the network chooses how much comes. -/
  | read (size choice : Nat)
  /-- It writes pieces, and the network chooses how much of them it takes. -/
  | write (pieces : List Bytes) (choice : Nat)
deriving DecidableEq, Repr

/-- What a handler learns from a step. -/
inductive StreamEvent where
  | received (bytes : Bytes)
  /-- So many of the offered bytes were taken. -/
  | sent (offered : Bytes) (count : Nat)
deriving DecidableEq, Repr

namespace ReplayedStream

/-- Performs a step of a handler. -/
def step (s : ReplayedStream) : StreamStep → StreamEvent × ReplayedStream
  | .read size choice => ((.received (s.read size choice).1), (s.read size choice).2)
  | .write pieces choice =>
    ((.sent pieces.flatten (s.write pieces choice).1), (s.write pieces choice).2)

/-- Performs the steps of a handler one after another. -/
def run (s : ReplayedStream) : List StreamStep → List StreamEvent × ReplayedStream
  | [] => ([], s)
  | e :: steps =>
    let (events, after) := (s.step e).2.run steps
    ((s.step e).1 :: events, after)

end ReplayedStream

end ProtocolGateway

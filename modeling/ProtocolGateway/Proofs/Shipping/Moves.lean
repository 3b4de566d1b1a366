import ProtocolGateway.Shipping.Shipper

/-!
# What a step can do to a shipper

Writers, the batcher, its clock and whoever closes the shipper take their steps in any order. What a
step can do is listed here once, each case with what it needs and what it leaves behind; what holds
along a run is read off this list.

Two things happen to a line that the state does not remember: a writer with the line found the
shipper open, and the queue took it. They are gathered along the run.

## Main definitions

* `Shipper.foundBy`, `Shipper.takenBy`: the lines that a step finds the shipper open for, and those
  that the queue takes in it.
* `Shipper.gather`: what is gathered along a run.
* `Shipper.Moves`: what a step can do.

## Main results

* `Shipper.moves_step`: a step does nothing else.
-/

namespace ProtocolGateway

namespace BatcherStage

/-- The stages in which lines are taken out of the queue, each with the one in which the batch is
posted when that is full. -/
inductive Takes : BatcherStage → BatcherStage → Prop where
  | collecting : Takes .collecting .posting
  | draining : Takes .draining .drainPosting

/-- The stages in which a batch is posted, each with the one after it. -/
inductive Posts : BatcherStage → BatcherStage → Prop where
  | posting : Posts .posting .collecting
  | drainPosting : Posts .drainPosting .draining
  | lastPosting : Posts .lastPosting .ending

variable {a b : BatcherStage}

theorem Takes.eq (h : a.Takes b) :
    a = .collecting ∧ b = .posting ∨ a = .draining ∧ b = .drainPosting := by
  cases h <;> simp

theorem Posts.eq (h : a.Posts b) :
    a = .posting ∧ b = .collecting ∨ a = .drainPosting ∧ b = .draining ∨
      a = .lastPosting ∧ b = .ending := by
  cases h <;> simp

end BatcherStage

namespace Shipper

variable {α : Type} {s : Shipper α}

/-- The line whose writer finds the shipper open in a step. -/
def foundBy (s : Shipper α) : ShipperStep α → List α
  | .look line => if s.isOpen then [line] else []
  | _ => []

/-- The line that the queue takes in a step. -/
def takenBy (s : Shipper α) : ShipperStep α → List α
  | .enqueue place => if s.takes then s.inHand[place]?.toList else []
  | _ => []

/-- What is gathered along a run, step by step. -/
def gather (f : Shipper α → ShipperStep α → List α) (s : Shipper α) : List (ShipperStep α) → List α
  | [] => []
  | e :: steps => f s e ++ (s.step e).gather f steps

/-- What a step can do. A step that is not possible does nothing, and then no line goes anywhere. -/
inductive Moves (s : Shipper α) : ShipperStep α → Shipper α → Prop where
  | stay (e : ShipperStep α) (hfound : s.foundBy e = []) (htaken : s.takenBy e = []) : Moves s e s
  | look (line : α) (hopen : s.isOpen = true) :
    Moves s (.look line) { s with inHand := s.inHand ++ [line] }
  | enqueue (place : Nat) (line : α) (hline : s.inHand[place]? = some line)
    (htakes : s.takes = true) :
    Moves s (.enqueue place)
      { s with inHand := s.inHand.eraseIdx place, queue := s.queue ++ [line] }
  | refuse (place : Nat) (line : α) (hline : s.inHand[place]? = some line)
    (hrefuses : s.takes = false) :
    Moves s (.enqueue place)
      { s with
        inHand := s.inHand.eraseIdx place
        refused := s.refused ++ [line]
        metrics := s.metrics.addShippingFailure 1 }
  | start (hstage : s.stage = .starting) (hroom : s.limits.batchSize ≤ maxRoom) :
    Moves s .start { s with stage := .collecting }
  | crash (hstage : s.stage = .starting) (hroom : maxRoom < s.limits.batchSize) :
    Moves s .start (s.leave .crashed)
  | take (line : α) (queue : List α) (full next : BatcherStage) (hstage : s.stage.Takes full)
    (hqueue : s.queue = line :: queue)
    (hnext : next = if s.limits.batchSize ≤ s.batch.length + 1 then full else s.stage) :
    Moves s .receive { s with queue, batch := s.batch ++ [line], stage := next }
  | exhaust (hstage : s.stage = .draining) (hqueue : s.queue = []) :
    Moves s .receive { s with stage := if s.batch.isEmpty then .ending else .lastPosting }
  | tick (hstage : s.stage = .collecting) (hbatch : s.batch ≠ []) :
    Moves s .tick { s with stage := .posting }
  | answered (delivered : Bool) (next : BatcherStage) (hstage : s.stage.Posts next) :
    Moves s (.answered delivered) { s.recordBatch delivered with stage := next }
  | closeWriter : Moves s .closeWriter { s with isOpen := false }
  | close : Moves s .close { s with isOpen := false, stopping := true }
  | notice (hstage : s.stage = .collecting) (hstopping : s.stopping = true) :
    Moves s .notice { s with stage := .draining }
  | finish (hstage : s.stage = .ending) : Moves s .finish (s.leave .ended)

/-! ### The steps one by one -/

theorem moves_look (line : α) : s.Moves (.look line) (s.step (.look line)) := by
  rw [step]
  split
  · next hopen => exact .look line hopen
  · next hclosed => exact .stay _ (if_neg hclosed) rfl

theorem moves_enqueue (place : Nat) : s.Moves (.enqueue place) (s.step (.enqueue place)) := by
  rw [step]
  split
  · next hnone => exact .stay _ rfl (by simp [takenBy, hnone])
  · next line hline =>
    have htakes : takes { s with inHand := s.inHand.eraseIdx place } = s.takes := rfl
    rw [offer, htakes]
    split
    · next htakes => exact .enqueue place line hline htakes
    · next hrefuses => exact .refuse place line hline (Bool.eq_false_iff.2 hrefuses)

theorem moves_start : s.Moves .start (s.step .start) := by
  rw [step]
  split
  · next hstage =>
    rw [start]
    split
    · next hroom => exact .start hstage hroom
    · next hroom => exact .crash hstage (Nat.lt_of_not_le hroom)
  · exact .stay _ rfl rfl

theorem moves_receive : s.Moves .receive (s.step .receive) := by
  rw [step, receive]
  split
  · next line queue hstage hqueue =>
    have htakes : s.stage.Takes .posting := hstage ▸ .collecting
    exact .take line queue _ _ htakes hqueue (by simp)
  · next line queue hstage hqueue =>
    have htakes : s.stage.Takes .drainPosting := hstage ▸ .draining
    exact .take line queue _ _ htakes hqueue (by simp)
  · next hstage hqueue => exact .exhaust hstage hqueue
  · exact .stay _ rfl rfl

theorem moves_tick : s.Moves .tick (s.step .tick) := by
  rw [step]
  split
  · next h =>
    obtain ⟨hstage, hbatch⟩ : s.stage = .collecting ∧ s.batch ≠ [] := by simpa using h
    exact .tick hstage hbatch
  · exact .stay _ rfl rfl

theorem moves_answered (delivered : Bool) :
    s.Moves (.answered delivered) (s.step (.answered delivered)) := by
  rw [step, answered]
  split
  · next hstage => exact .answered delivered _ (hstage ▸ .posting)
  · next hstage => exact .answered delivered _ (hstage ▸ .drainPosting)
  · next hstage => exact .answered delivered _ (hstage ▸ .lastPosting)
  · exact .stay _ rfl rfl

theorem moves_notice : s.Moves .notice (s.step .notice) := by
  rw [step]
  split
  · next h =>
    obtain ⟨hstage, hstopping⟩ : s.stage = .collecting ∧ s.stopping = true := by simpa using h
    exact .notice hstage hstopping
  · exact .stay _ rfl rfl

theorem moves_finish : s.Moves .finish (s.step .finish) := by
  rw [step]
  split
  · next hstage => exact .finish hstage
  · exact .stay _ rfl rfl

/-- **A step does nothing else.** -/
theorem moves_step (s : Shipper α) (e : ShipperStep α) : s.Moves e (s.step e) := by
  cases e with
  | look line => exact moves_look line
  | enqueue place => exact moves_enqueue place
  | start => exact moves_start
  | receive => exact moves_receive
  | tick => exact moves_tick
  | answered delivered => exact moves_answered delivered
  | closeWriter => exact .closeWriter
  | close => exact .close
  | notice => exact moves_notice
  | finish => exact moves_finish

end Shipper

end ProtocolGateway

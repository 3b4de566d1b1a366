import Mathlib.Data.List.Perm.Basic
import ProtocolGateway.Proofs.Shipping.Moves

/-!
# Where log lines are lost

A line whose writer found the shipper open is delivered in a batch, or it is lost and counted: the
queue did not take it, or the collector did not accept its batch. There is one other way. The queue
goes on to take lines when the batcher has taken its last one, and it takes lines for a batcher that
has no room to begin. What is in the queue when the batcher ends or crashes is posted by nobody, and
nobody counts it.

## Main definitions

* `Shipper.accepted`, `Shipper.counted`: the lines that were delivered, and those that are counted
  as lost.
* `Shipper.foundIn`, `Shipper.wastedIn`: the lines that found the shipper open, and those that the
  queue took in vain.
* `Shipper.Accounts`: where these lines are at any time.

## Main results

* `Shipper.Accounts.run`: the lines at the end of any run.
* `Shipper.lines_accounted`: what becomes of them when the batcher is gone.
* `Shipper.lines_lost_silently`: lines that are lost without being counted.
-/

namespace ProtocolGateway

/-- Whether the batcher has taken its last line but is not gone. -/
def BatcherStage.isLate : BatcherStage → Bool
  | .lastPosting | .ending => true
  | _ => false

namespace Shipper

variable {α : Type} {s s' : Shipper α} {e : ShipperStep α} {found wasted : List α}

/-- The lines of the batches that the collector accepted, or of those that it did not. -/
def linesPosted (delivered : Bool) (s : Shipper α) : List α :=
  (s.posted.filter (·.delivered = delivered)).flatMap (·.lines)

/-- The lines that were delivered. -/
def accepted (s : Shipper α) : List α := s.linesPosted true

/-- The lines that are counted as lost. -/
def counted (s : Shipper α) : List α := s.linesPosted false ++ s.refused

/-- The lines that may still be posted. -/
def underWay (s : Shipper α) : List α := s.batch ++ s.queue ++ s.inHand

/-- Whether the batcher will not take a line that is put into the queue now: it has taken its last
one, or it has no room to begin. -/
def takesInVain (s : Shipper α) : Bool := s.stage.isLate || maxRoom < s.limits.batchSize

/-- The line that the queue takes in vain in a step. -/
def wastedBy (s : Shipper α) (e : ShipperStep α) : List α :=
  if s.takesInVain then s.takenBy e else []

/-- The lines whose writers find the shipper open. -/
def foundIn (s : Shipper α) (steps : List (ShipperStep α)) : List α := s.gather foundBy steps

/-- The lines that the queue takes in vain. -/
def wastedIn (s : Shipper α) (steps : List (ShipperStep α)) : List α := s.gather wastedBy steps

/-! ### What is known of each stage -/

/-- What is known of the lines at a stage, if `wasted` are those that the queue took in vain. -/
def StandsAt (s : Shipper α) (wasted : List α) : BatcherStage → Prop
  | .starting =>
    s.batch = [] ∧ s.left = [] ∧ wasted = if maxRoom < s.limits.batchSize then s.queue else []
  | .collecting | .posting | .draining | .drainPosting =>
    s.limits.batchSize ≤ maxRoom ∧ s.left = [] ∧ wasted = []
  | .lastPosting => s.left = [] ∧ s.queue = wasted
  | .ending => s.batch = [] ∧ s.left = [] ∧ s.queue = wasted
  | .ended | .crashed => s.batch = [] ∧ s.queue = [] ∧ s.left = wasted

/-- What is known of the lines at the stage at which the batcher is. -/
def Stands (s : Shipper α) (wasted : List α) : Prop := s.StandsAt wasted s.stage

theorem stands_ofSettings (settings : LogShippingSettings) :
    (ofSettings settings : Shipper α).Stands [] := ⟨rfl, rfl, (ite_self []).symm⟩

theorem Stands.at {stage : BatcherStage} (h : s.Stands wasted) (hstage : s.stage = stage) :
    s.StandsAt wasted stage := hstage ▸ h

/-- Nothing is left behind before the batcher is gone. -/
theorem Stands.left (h : s.Stands wasted) (hstage : s.stage.isGone = false) : s.left = [] := by
  cases hs : s.stage with
  | starting | collecting | posting | draining | drainPosting | ending => exact (h.at hs).2.1
  | lastPosting => exact (h.at hs).1
  | ended | crashed => rw [hs] at hstage; cases hstage

/-- A batcher that is gone has left behind what was wasted, and holds nothing. -/
theorem Stands.gone (h : s.Stands wasted) (hstage : s.stage.isGone = true) :
    s.batch = [] ∧ s.queue = [] ∧ s.left = wasted := by
  cases hs : s.stage with
  | ended | crashed => exact h.at hs
  | _ => rw [hs] at hstage; cases hstage

/-- The queue takes a line in vain or for the batcher, who then has left nothing in it. -/
theorem Stands.enqueue {place : Nat} {line : α} (h : s.Stands wasted)
    (hline : s.inHand[place]? = some line) (htakes : s.takes = true) :
    Stands { s with inHand := s.inHand.eraseIdx place, queue := s.queue ++ [line] }
      (wasted ++ s.wastedBy (.enqueue place)) := by
  have htaken : s.takenBy (.enqueue place) = [line] := by simp [takenBy, htakes, hline]
  rw [wastedBy, htaken, takesInVain, Stands]
  cases hs : s.stage with
  | starting =>
    obtain ⟨hbatch, hleft, rfl⟩ := h.at hs
    by_cases hroom : maxRoom < s.limits.batchSize <;>
      simp [StandsAt, BatcherStage.isLate, hbatch, hleft, hroom]
  | collecting | posting | draining | drainPosting =>
    obtain ⟨hroom, hleft, rfl⟩ := h.at hs
    simp [StandsAt, BatcherStage.isLate, hroom, hleft]
  | lastPosting | ending => simpa [StandsAt, BatcherStage.isLate] using h.at hs
  | ended | crashed => simp [takes, hs, BatcherStage.isGone] at htakes

theorem Stands.of_takenBy (h : s'.Stands wasted) (htaken : s.takenBy e = []) :
    s'.Stands (wasted ++ s.wastedBy e) := by
  rw [wastedBy, htaken, ite_self, List.append_nil]
  exact h

/-- No line was wasted on a batcher that takes one out of the queue. -/
theorem Stands.take {full next : BatcherStage} {queue batch : List α} (h : s.Stands wasted)
    (hstage : s.stage.Takes full) (hnext : next = full ∨ next = s.stage) :
    Stands { s with queue, batch, stage := next } wasted := by
  rcases hstage.eq with ⟨hs, rfl⟩ | ⟨hs, rfl⟩ <;> rcases hnext with rfl | rfl
  all_goals
    obtain ⟨hroom, hleft, rfl⟩ := h.at hs
    simp [Stands, hs, StandsAt, hroom, hleft]

/-- What is known of each stage is known after any step. -/
theorem Moves.stands (h : s.Moves e s') (hs : s.Stands wasted) :
    s'.Stands (wasted ++ s.wastedBy e) := by
  cases h with
  | enqueue place line hline htakes => exact hs.enqueue hline htakes
  | refuse place line _ hrefuses => exact hs.of_takenBy (by simp [takenBy, hrefuses])
  | stay e _ htaken => exact hs.of_takenBy htaken
  | look | closeWriter | close => exact hs.of_takenBy rfl
  | start hstage hroom =>
    obtain ⟨-, hleft, hwasted⟩ := hs.at hstage
    rw [if_neg (Nat.not_lt.2 hroom)] at hwasted
    exact .of_takenBy ⟨hroom, hleft, hwasted⟩ rfl
  | crash hstage hroom =>
    -- All that was queued so far was queued for nobody.
    obtain ⟨hbatch, -, hwasted⟩ := hs.at hstage
    rw [if_pos hroom] at hwasted
    exact .of_takenBy ⟨hbatch, rfl, hwasted.symm⟩ rfl
  | take line queue full next hstage _ hnext =>
    exact .of_takenBy (hs.take hstage (hnext ▸ ite_eq_or_eq ..)) rfl
  | exhaust hstage hqueue =>
    obtain ⟨-, hleft, rfl⟩ := hs.at hstage
    refine .of_takenBy ?_ rfl
    rw [Stands]
    by_cases hbatch : s.batch = [] <;> simp [StandsAt, hbatch, hleft, hqueue]
  | tick hstage | notice hstage => exact .of_takenBy (hs.at hstage) rfl
  | answered delivered next hstage =>
    refine .of_takenBy ?_ rfl
    rcases hstage.eq with ⟨hat, rfl⟩ | ⟨hat, rfl⟩ | ⟨hat, rfl⟩
    · exact hs.at hat
    · exact hs.at hat
    · exact ⟨rfl, hs.at hat⟩
  | finish hstage =>
    obtain ⟨hbatch, -, hqueue⟩ := hs.at hstage
    exact .of_takenBy ⟨hbatch, rfl, hqueue⟩ rfl

/-! ### Where the lines are -/

/-- The lines at all the places at which a line can be. -/
def places (s : Shipper α) : List α := s.accepted ++ s.counted ++ s.left ++ s.underWay

section count

variable [DecidableEq α] (line : α)

/-- A batch that was posted goes to the lines that were delivered, or to those that are counted. -/
theorem count_recordBatch (delivered : Bool) :
    (s.recordBatch delivered).accepted.count line + (s.recordBatch delivered).counted.count line =
      s.accepted.count line + s.counted.count line + s.batch.count line := by
  cases delivered <;>
    simp [recordBatch, accepted, counted, linesPosted, List.filter_append, List.count_append] <;>
    omega

theorem count_eraseIdx {place : Nat} {other : α} (h : s.inHand[place]? = some other) :
    s.inHand.count line = [other].count line + (s.inHand.eraseIdx place).count line := by
  obtain ⟨hlt, rfl⟩ := List.getElem?_eq_some_iff.1 h
  rw [← List.count_append]
  exact ((List.getElem_cons_eraseIdx_perm hlt).count_eq line).symm

theorem count_leave {gone : BatcherStage} (hleft : s.left = []) :
    (s.leave gone).places.count line = s.places.count line := by
  have hposted : (s.leave gone).accepted = s.accepted ∧ (s.leave gone).counted = s.counted :=
    ⟨rfl, rfl⟩
  rw [places, places, hposted.1, hposted.2]
  simp only [leave, underWay, hleft, List.count_append, List.count_nil]
  omega

/-- A line moves from place to place, and only a writer who finds the shipper open brings one. -/
theorem Moves.count_places (h : s.Moves e s') (hs : s.Stands wasted) :
    s'.places.count line = s.places.count line + (s.foundBy e).count line := by
  have hsum (t : Shipper α) : t.places.count line =
      t.accepted.count line + t.counted.count line + t.left.count line +
        (t.batch.count line + t.queue.count line + t.inHand.count line) := by
    simp only [places, underWay, List.count_append]
  cases h with
  | stay e hfound _ => rw [hfound, List.count_nil, Nat.add_zero]
  | look other hopen =>
    rw [foundBy, if_pos hopen, hsum, hsum]
    simp only [List.count_append]
    show s.accepted.count line + s.counted.count line + _ + _ = _
    omega
  | enqueue place other hline _ =>
    have herase := count_eraseIdx line hline
    rw [hsum, hsum]
    simp only [foundBy, List.count_append, List.count_nil]
    show s.accepted.count line + s.counted.count line + _ + _ = _
    omega
  | refuse place other hline _ =>
    have herase := count_eraseIdx line hline
    rw [hsum, hsum]
    simp only [foundBy, counted, List.count_append, List.count_nil]
    show s.accepted.count line + ((s.linesPosted false).count line + _) + _ + _ = _
    omega
  | start _ _ | exhaust _ _ | tick _ _ | closeWriter | close | notice _ _ => rfl
  | crash hstage _ => exact count_leave line (hs.left (by rw [hstage]; rfl))
  | take other queue full next _ hqueue _ =>
    rw [hsum, hsum, hqueue]
    simp only [foundBy, List.count_append, List.count_cons, List.count_nil]
    show s.accepted.count line + s.counted.count line + _ + _ = _
    omega
  | answered delivered next _ =>
    have hposted := count_recordBatch (s := s) line delivered
    rw [hsum, hsum]
    show (s.recordBatch delivered).accepted.count line +
      (s.recordBatch delivered).counted.count line + s.left.count line +
        (List.count line [] + s.queue.count line + s.inHand.count line) = _
    simp only [foundBy, List.count_nil]
    omega
  | finish hstage => exact count_leave line (hs.left (by rw [hstage]; rfl))

end count

/-! ### What is counted -/

theorem lostLines_addShippingFailure {metrics : Metrics} {lines : Nat} :
    ((metrics.addShippingFailure lines).value? .droppedLines).getD 0 =
      (metrics.value? .droppedLines).getD 0 + lines := by
  rw [Metrics.addShippingFailure, Metrics.value_add, Metrics.value_add, if_pos rfl]
  rfl

/-- As many lines as are lost in a step and could be posted are counted in it. -/
theorem Moves.lostLines_eq (h : s.Moves e s') (hlost : s.lostLines = s.counted.length) :
    s'.lostLines = s'.counted.length := by
  cases h with
  | refuse place line _ _ =>
    simp only [lostLines, lostLines_addShippingFailure, counted, List.length_append,
      List.length_singleton] at hlost ⊢
    rw [hlost]
    rfl
  | answered delivered next _ =>
    cases delivered with
    | true =>
      rw [← Nat.add_zero s.lostLines] at hlost
      simpa [lostLines, counted, linesPosted, recordBatch, List.filter_append] using hlost
    | false =>
      simp only [lostLines, counted, linesPosted, recordBatch, List.length_append,
        List.filter_append, List.flatMap_append, Bool.false_eq_true, if_false,
        lostLines_addShippingFailure] at hlost ⊢
      simp [hlost]
      omega
  | _ => exact hlost

/-! ### Along a run -/

/-- Where the lines are at any time: each line whose writer found the shipper open is at one place,
and as many lines as were lost in a way that is counted are counted. -/
structure Accounts (s : Shipper α) (found wasted : List α) : Prop where
  lines : s.places.Perm found
  lost : s.lostLines = s.counted.length
  stands : s.Stands wasted

theorem accounts_ofSettings (settings : LogShippingSettings) :
    (ofSettings settings : Shipper α).Accounts [] [] where
  lines := .nil
  lost := rfl
  stands := stands_ofSettings settings

theorem Accounts.step (h : s.Accounts found wasted) (e : ShipperStep α) :
    (s.step e).Accounts (found ++ s.foundBy e) (wasted ++ s.wastedBy e) where
  lines := by
    classical
    refine List.perm_iff_count.2 fun line => ?_
    rw [(moves_step s e).count_places line h.stands, h.lines.count_eq line, List.count_append]
  lost := (moves_step s e).lostLines_eq h.lost
  stands := (moves_step s e).stands h.stands

/-- **The lines at the end of any run.** -/
theorem Accounts.run (h : s.Accounts found wasted) (steps : List (ShipperStep α)) :
    (s.run steps).Accounts (found ++ s.foundIn steps) (wasted ++ s.wastedIn steps) := by
  induction steps generalizing s found wasted with
  | nil => simpa [Shipper.run, foundIn, wastedIn, gather] using h
  | cons e steps ih =>
    have hstep := ih (h.step e)
    rwa [List.append_assoc, List.append_assoc] at hstep

/-! ### When the batcher is gone -/

/-- **What becomes of the lines when the batcher is gone.** Each was delivered, or is counted as
lost, or was taken in vain and left in the queue. -/
theorem lines_accounted (settings : LogShippingSettings) (steps : List (ShipperStep α))
    (hgone : ((ofSettings settings).run steps).stage.isGone = true)
    (hwriters : ((ofSettings settings).run steps).inHand = []) :
    ((ofSettings settings).foundIn steps).Perm
        (((ofSettings settings).run steps).accepted ++ ((ofSettings settings).run steps).counted ++
          (ofSettings settings).wastedIn steps) ∧
      ((ofSettings settings).run steps).lostLines =
        ((ofSettings settings).run steps).counted.length ∧
      ((ofSettings settings).run steps).left = (ofSettings settings).wastedIn steps := by
  obtain ⟨hlines, hlost, hstands⟩ := (accounts_ofSettings settings).run steps
  obtain ⟨hbatch, hqueue, hleft⟩ := hstands.gone hgone
  rw [List.nil_append] at hlines hleft
  refine ⟨?_, hlost, hleft⟩
  rw [← hleft]
  simpa [places, underWay, hbatch, hqueue, hwriters] using hlines.symm

/-- A writer finds the shipper open with the second line, and queues it while the batcher, which has
found the queue empty, posts the first. -/
def lateLine : List (ShipperStep Nat) :=
  [.start, .look 1, .enqueue 0, .look 2, .close, .receive, .notice, .receive, .enqueue 0,
    .answered true, .finish]

/-- The lines of this run are accounted for only with the one that was taken in vain. -/
theorem lines_accounted_lateLine :
    ((ofSettings { }).run lateLine).stage.isGone = true ∧
      ((ofSettings { }).run lateLine).inHand = [] ∧
      ((ofSettings { }).foundIn lateLine).Perm ([1] ++ [] ++ [2]) ∧
      ((ofSettings { }).run lateLine).lostLines = 0 ∧
      ((ofSettings { }).run lateLine).left = [2] := by
  have hgone : ((ofSettings { }).run lateLine).stage.isGone = true := by decide
  have hwriters : ((ofSettings { }).run lateLine).inHand = [] := by decide
  exact ⟨hgone, hwriters, lines_accounted { } lateLine hgone hwriters⟩

/-- **A line is lost without being counted** that is queued while the batcher posts its last
batch. -/
theorem lines_lost_silently :
    let s : Shipper Nat := ofSettings { }
    (s.run lateLine).stage = .ended ∧ (s.run lateLine).inHand = [] ∧
      s.foundIn lateLine = [1, 2] ∧ (s.run lateLine).posted = [⟨[1], true⟩] ∧
      (s.run lateLine).lostLines = 0 := by
  decide +kernel

end Shipper

end ProtocolGateway

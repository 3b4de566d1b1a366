import ProtocolGateway.Proofs.Shipping.Losses

/-!
# How lines become batches

The batcher takes lines out of the queue one by one, in the order in which the queue took them, and
cuts what it takes into batches. However its steps, those of its clock and the answers of the
collector come in between, the batches one after another are the lines that it took, and each batch
is full unless the clock or the end of the queue cut it short. A batch leaves the batcher when it is
posted, whether it is delivered or not, so that no line is posted twice.

## Main definitions

* `Shipper.receivedIn`, `Shipper.takenIn`: the lines that the batcher took out of the queue, and
  those that the queue took.
* `BatchCut`, `Shipper.cutsIn`: why batches were posted.
* `Shipper.begun`: the batches whose posting has begun.
* `Shipper.FitsCut`: what a batch is like that was cut for a reason.
* `Shipper.Batched`: what holds of the batches at any time.

## Main results

* `Shipper.through_step`: no line is lost, repeated or overtaken between the queue and the
  collector.
* `Shipper.Moves.begun`, `Shipper.Moves.fits`: a batch that begins to be posted, and what it is
  like.
* `Shipper.Batched.run`: what holds at any time holds after any run.
-/

namespace ProtocolGateway

namespace BatcherStage

/-- Whether lines are taken out of the queue. -/
def isTaking : BatcherStage → Bool
  | .collecting | .draining => true
  | _ => false

/-- Whether a batch is being posted. -/
def isPosting : BatcherStage → Bool
  | .posting | .drainPosting | .lastPosting => true
  | _ => false

variable {a b : BatcherStage}

theorem Takes.isTaking (h : a.Takes b) : a.isTaking = true := by cases h <;> rfl

theorem Takes.not_isPosting (h : a.Takes b) : a.isPosting = false := by cases h <;> rfl

theorem Takes.not_isGone (h : a.Takes b) : a.isGone = false := by cases h <;> rfl

theorem Takes.isPosting_full (h : a.Takes b) : b.isPosting = true := by cases h <;> rfl

theorem Posts.isPosting (h : a.Posts b) : a.isPosting = true := by cases h <;> rfl

theorem Posts.not_isGone (h : a.Posts b) : a.isGone = false := by cases h <;> rfl

theorem Posts.not_isPosting_next (h : a.Posts b) : b.isPosting = false := by cases h <;> rfl

end BatcherStage

/-- Why a batch is posted. -/
inductive BatchCut where
  /-- It has as many lines as a batch can have. -/
  | full
  /-- The clock has ticked. -/
  | tick
  /-- The queue has been drained. -/
  | drained
deriving DecidableEq, Repr

namespace Shipper

variable {α : Type} {s s' : Shipper α} {e : ShipperStep α}
variable {received taken wasted : List α} {cuts : List BatchCut}

/-- The line that the batcher takes out of the queue in a step. -/
def receivedBy (s : Shipper α) : ShipperStep α → List α
  | .receive => if s.stage.isTaking then s.queue.head?.toList else []
  | _ => []

/-- Whether a batch begins to be posted in a step. -/
def begins (s : Shipper α) (e : ShipperStep α) : Bool :=
  !s.stage.isPosting && (s.step e).stage.isPosting

/-- Why a batch is posted if it begins to be posted in this step. -/
def cutFor (s : Shipper α) : ShipperStep α → BatchCut
  | .tick => .tick
  | _ => if s.queue.isEmpty then .drained else .full

/-- Why a batch begins to be posted in a step, if one does. -/
def cutBy (s : Shipper α) (e : ShipperStep α) : List BatchCut :=
  if s.begins e then [s.cutFor e] else []

/-- The lines that the batcher takes out of the queue. -/
def receivedIn (s : Shipper α) (steps : List (ShipperStep α)) : List α := s.gather receivedBy steps

/-- The lines that the queue takes. -/
def takenIn (s : Shipper α) (steps : List (ShipperStep α)) : List α := s.gather takenBy steps

/-- Why batches begin to be posted, in their order. -/
def cutsIn (s : Shipper α) : List (ShipperStep α) → List BatchCut
  | [] => []
  | e :: steps => s.cutBy e ++ (s.step e).cutsIn steps

/-- The lines of the batches that were posted, one batch after another. -/
def postedLines (s : Shipper α) : List α := s.posted.flatMap (·.lines)

/-- The lines that have come through the queue. -/
def through (s : Shipper α) : List α := s.postedLines ++ s.batch

/-- The batches whose posting has begun. -/
def begun (s : Shipper α) : List (List α) :=
  s.posted.map (·.lines) ++ if s.stage.isPosting then [s.batch] else []

/-- A batch has a line, and not too many, and it is full exactly if that is why it was cut. -/
def FitsCut (size : Nat) (batch : List α) (cut : BatchCut) : Prop :=
  0 < batch.length ∧ batch.length ≤ size ∧ (batch.length = size ↔ cut = .full)

/-! ### The way of the lines -/

/-- If a step changes nothing, no line was taken out of the queue in it. -/
theorem receivedBy_of_stay (h : s.step e = s) : s.receivedBy e = [] := by
  cases e with
  | receive =>
    rw [receivedBy]
    cases hqueue : s.queue with
    | nil => simp
    | cons line queue =>
      have hshorter (hstage : s.stage.isTaking = true) : (s.step .receive).queue = queue := by
        cases hs : s.stage with
        | collecting | draining => simp [step, receive, hs, hqueue, addToBatch]
        | _ => rw [hs] at hstage; cases hstage
      refine if_neg fun hstage => ?_
      have hlength := congrArg List.length (hshorter hstage)
      rw [h, hqueue] at hlength
      simp at hlength
  | _ => rfl

/-- **What comes through the queue goes on in its order**, into the batch and with it to the
collector. -/
theorem through_step (s : Shipper α) (e : ShipperStep α) :
    (s.step e).through = s.through ++ s.receivedBy e := by
  have hmoves := moves_step s e
  generalize hnext : s.step e = next at hmoves
  cases hmoves with
  | stay => rw [receivedBy_of_stay hnext, List.append_nil]
  | take line queue full next hstage hqueue _ =>
    rw [receivedBy, if_pos (hstage.isTaking), hqueue]
    exact (List.append_assoc ..).symm
  | exhaust hstage hqueue =>
    rw [receivedBy, hqueue, List.head?_nil, Option.toList_none, ite_self, List.append_nil]
    rfl
  | answered delivered next hstage =>
    simp [through, postedLines, recordBatch, receivedBy]
  | _ => exact (List.append_nil _).symm

/-- **The queue gives away lines in the order in which it took them**, and keeps the others until
the batcher is gone. -/
theorem queue_step (hleft : s.stage.isGone = false → s.left = []) (e : ShipperStep α) :
    s.receivedBy e ++ (s.step e).queue ++ (s.step e).left = s.queue ++ s.left ++ s.takenBy e := by
  have hmoves := moves_step s e
  generalize hnext : s.step e = next at hmoves
  cases hmoves with
  | stay e _ htaken => rw [receivedBy_of_stay hnext, htaken, List.nil_append, List.append_nil]
  | enqueue place line hline htakes =>
    have hgone : s.stage.isGone = false := by
      rw [takes, Bool.and_eq_true, Bool.not_eq_true'] at htakes
      exact htakes.1
    have htaken : s.takenBy (.enqueue place) = [line] := by simp [takenBy, htakes, hline]
    rw [htaken]
    simp [receivedBy, hleft hgone]
  | refuse place line _ hrefuses =>
    have htaken : s.takenBy (.enqueue place) = [] := by simp [takenBy, hrefuses]
    rw [htaken, List.append_nil]
    rfl
  | take line queue full next hstage hqueue _ =>
    rw [receivedBy, if_pos (hstage.isTaking), hqueue]
    exact (List.append_nil _).symm
  | exhaust _ hqueue =>
    rw [receivedBy, hqueue, List.head?_nil, Option.toList_none, ite_self]
    exact (List.append_nil _).symm
  | crash hstage _ | finish hstage =>
    have hnone : s.left = [] := hleft (by rw [hstage]; rfl)
    simp [receivedBy, takenBy, leave, hnone]
  | _ => exact (List.append_nil _).symm

/-! ### Cutting batches -/

/-- A batch that is being posted stays as it is until the collector answers. -/
theorem begun_of_posted (hposted : s'.posted = s.posted)
    (hbatch : s.stage.isPosting = true → s'.stage = s.stage ∧ s'.batch = s.batch) :
    s'.begun = s.begun ++ if !s.stage.isPosting && s'.stage.isPosting then [s'.batch] else [] := by
  rw [begun, begun, hposted]
  cases hposting : s.stage.isPosting with
  | true =>
    obtain ⟨hstage, hsame⟩ := hbatch hposting
    simp [hstage, hsame, hposting]
  | false => simp

/-- **A batch that begins to be posted is the next one**, and the others stay as they are. -/
theorem Moves.begun (h : s.Moves e s') :
    s'.begun = s.begun ++ if !s.stage.isPosting && s'.stage.isPosting then [s'.batch] else [] := by
  cases h with
  | stay | look | enqueue | refuse | closeWriter | close =>
    exact begun_of_posted rfl fun _ => ⟨rfl, rfl⟩
  | start hstage _ | crash hstage _ | exhaust hstage _ | tick hstage _ | notice hstage _
  | finish hstage =>
    refine begun_of_posted rfl fun hposting => ?_
    rw [hstage] at hposting
    cases hposting
  | take line queue full next hstage _ _ =>
    refine begun_of_posted rfl fun hposting => ?_
    rw [hstage.not_isPosting] at hposting
    cases hposting
  | answered delivered next hstage =>
    simp [Shipper.begun, recordBatch, hstage.isPosting, hstage.not_isPosting_next]

/-- There is room in a batch that is not being posted. -/
theorem Moves.room (h : s.Moves e s')
    (hroom : s.stage.isPosting = false → s.batch.length < s.limits.batchSize)
    (hposting : s'.stage.isPosting = false) : s'.batch.length < s'.limits.batchSize := by
  cases h with
  | stay | look | enqueue | refuse | closeWriter | close => exact hroom hposting
  | start hstage _ | crash hstage _ | exhaust hstage _ | notice hstage _ | finish hstage =>
    exact hroom (by rw [hstage]; rfl)
  | tick => cases hposting
  | take line queue full next hstage _ hnext =>
    rw [List.length_append, List.length_singleton]
    split at hnext
    · rw [hnext, hstage.isPosting_full] at hposting
      cases hposting
    · next hsmall => exact Nat.lt_of_not_le hsmall
  | answered delivered next hstage => exact s.limits.batchSize_pos

/-- **A batch that begins to be posted is what its cut says.** -/
theorem Moves.fits (h : s.Moves e s') (hnot : s.stage.isPosting = false)
    (hsmall : s.batch.length < s.limits.batchSize) (hposting : s'.stage.isPosting = true) :
    FitsCut s.limits.batchSize s'.batch (s.cutFor e) := by
  cases h with
  | stay | look | enqueue | refuse | closeWriter | close =>
    rw [hnot] at hposting
    cases hposting
  | start | crash | notice | finish => cases hposting
  | tick hstage hbatch =>
    have hlines := List.length_pos_iff.2 hbatch
    exact ⟨hlines, Nat.le_of_lt hsmall, iff_of_false (Nat.ne_of_lt hsmall) (by simp [cutFor])⟩
  | exhaust hstage hqueue =>
    have hbatch : s.batch ≠ [] := by
      intro hnil
      simp [hnil, BatcherStage.isPosting] at hposting
    have hlines := List.length_pos_iff.2 hbatch
    exact ⟨hlines, Nat.le_of_lt hsmall,
      iff_of_false (Nat.ne_of_lt hsmall) (by simp [cutFor, hqueue])⟩
  | take line queue full next hstage hqueue hnext =>
    have hfull : s.limits.batchSize ≤ s.batch.length + 1 := by
      split at hnext
      · next hfull => exact hfull
      · rw [hnext, hnot] at hposting
        cases hposting
    have hlength : (s.batch ++ [line]).length = s.limits.batchSize := by
      rw [List.length_append, List.length_singleton]
      omega
    refine ⟨?_, Nat.le_of_eq hlength, iff_of_true hlength (by simp [cutFor, hqueue])⟩
    rw [hlength]
    exact s.limits.batchSize_pos
  | answered delivered next hstage =>
    rw [hstage.isPosting] at hnot
    cases hnot

/-! ### What is counted -/

/-- The batches that the collector did not accept. -/
def failed (s : Shipper α) : List (PostedBatch α) := s.posted.filter (·.delivered = false)

theorem failures_addShippingFailure {metrics : Metrics} {lines : Nat} :
    ((metrics.addShippingFailure lines).value? .shippingFailures).getD 0 =
      (metrics.value? .shippingFailures).getD 0 + 1 := by
  rw [Metrics.addShippingFailure, Metrics.value_add, Metrics.value_add, if_pos rfl,
    if_neg (by decide)]

/-- Each batch that was not accepted is counted once, and so is each line that was refused. -/
theorem Moves.failures_eq (h : s.Moves e s')
    (hfailures : s.failures = s.failed.length + s.refused.length) :
    s'.failures = s'.failed.length + s'.refused.length := by
  cases h with
  | refuse place line _ _ =>
    simp only [failures, failures_addShippingFailure, failed, List.length_append,
      List.length_singleton] at hfailures ⊢
    omega
  | answered delivered next _ =>
    cases delivered with
    | true => simpa [failures, failed, recordBatch, List.filter_append] using hfailures
    | false =>
      simp [failures, failed, recordBatch, List.filter_append, failures_addShippingFailure]
        at hfailures ⊢
      omega
  | _ => exact hfailures

/-- No batch is taken back that was posted. -/
theorem Moves.prefix_posted (h : s.Moves e s') : s.posted <+: s'.posted := by
  cases h with
  | answered delivered next _ => exact List.prefix_append _ _
  | _ => exact List.prefix_rfl

theorem posted_run (s : Shipper α) (steps : List (ShipperStep α)) :
    s.posted <+: (s.run steps).posted := by
  induction steps generalizing s with
  | nil => exact List.prefix_rfl
  | cons e steps ih => exact (moves_step s e).prefix_posted.trans (ih (s.step e))

/-! ### What holds at any time -/

theorem Moves.limits_eq (h : s.Moves e s') : s'.limits = s.limits := by
  cases h with
  | _ => rfl

theorem Moves.capacity (h : s.Moves e s') (hqueued : s.queue.length ≤ s.limits.capacity) :
    s'.queue.length ≤ s'.limits.capacity := by
  cases h with
  | enqueue place line _ htakes =>
    have hspace : s.queue.length < s.limits.capacity := by
      rw [takes, Bool.and_eq_true, decide_eq_true_eq] at htakes
      exact htakes.2
    simpa using Nat.succ_le_of_lt hspace
  | take line queue full next _ hqueue _ =>
    rw [hqueue] at hqueued
    exact Nat.le_of_succ_le hqueued
  | crash | finish => exact Nat.zero_le _
  | _ => exact hqueued

/-- Nothing is left behind before the batcher is gone. -/
theorem Moves.left_eq (h : s.Moves e s') (hleft : s.stage.isGone = false → s.left = [])
    (hgone : s'.stage.isGone = false) : s'.left = [] := by
  cases h with
  | stay | look | enqueue | refuse | closeWriter | close => exact hleft hgone
  | start hstage _ | exhaust hstage _ | tick hstage _ | notice hstage _ =>
    exact hleft (by rw [hstage]; rfl)
  | take line queue full next hstage _ _ => exact hleft hstage.not_isGone
  | answered delivered next hstage => exact hleft hstage.not_isGone
  | crash | finish => cases hgone

/-- What holds of the batches at any time, if these lines were taken out of the queue and by it, and
batches were posted for these reasons. -/
structure Batched (limits : ShipperLimits) (received taken : List α) (cuts : List BatchCut)
    (s : Shipper α) : Prop where
  limits : s.limits = limits
  through : s.through = received
  taken : received ++ s.queue ++ s.left = taken
  left : s.stage.isGone = false → s.left = []
  capacity : s.queue.length ≤ s.limits.capacity
  room : s.stage.isPosting = false → s.batch.length < s.limits.batchSize
  begun : List.Forall₂ (FitsCut s.limits.batchSize) s.begun cuts
  failures : s.failures = s.failed.length + s.refused.length

theorem batched_ofSettings (settings : LogShippingSettings) :
    (ofSettings settings : Shipper α).Batched (.ofSettings settings) [] [] [] where
  limits := rfl
  through := rfl
  taken := rfl
  left _ := rfl
  capacity := Nat.zero_le _
  room _ := (ShipperLimits.ofSettings settings).batchSize_pos
  begun := .nil
  failures := rfl

theorem Batched.step {limits : ShipperLimits} (h : s.Batched limits received taken cuts)
    (e : ShipperStep α) :
    (s.step e).Batched limits (received ++ s.receivedBy e) (taken ++ s.takenBy e)
      (cuts ++ s.cutBy e) where
  limits := (moves_step s e).limits_eq.trans h.limits
  through := by rw [through_step, h.through]
  taken := by
    rw [← h.taken]
    have hqueue := queue_step h.left e
    simp only [List.append_assoc] at hqueue ⊢
    rw [hqueue]
  left := (moves_step s e).left_eq h.left
  capacity := (moves_step s e).capacity h.capacity
  room := (moves_step s e).room h.room
  begun := by
    rw [(moves_step s e).limits_eq, (moves_step s e).begun, cutBy, begins]
    refine List.rel_append h.begun ?_
    split
    · next hbegins =>
      rw [Bool.and_eq_true, Bool.not_eq_true'] at hbegins
      exact .cons ((moves_step s e).fits hbegins.1 (h.room hbegins.1) hbegins.2) .nil
    · exact .nil
  failures := (moves_step s e).failures_eq h.failures

/-- **What holds of the batches at any time holds after any run.** -/
theorem Batched.run {limits : ShipperLimits} (h : s.Batched limits received taken cuts)
    (steps : List (ShipperStep α)) :
    (s.run steps).Batched limits (received ++ s.receivedIn steps) (taken ++ s.takenIn steps)
      (cuts ++ s.cutsIn steps) := by
  induction steps generalizing s received taken cuts with
  | nil => simpa [Shipper.run, receivedIn, takenIn, gather, cutsIn] using h
  | cons e steps ih =>
    have hrest := ih (h.step e)
    simp only [List.append_assoc] at hrest
    exact hrest

/-! ### Lines that were refused -/

/-- The lines of all batches are those of the batches that were accepted, with the others. -/
theorem accepted_append_perm (s : Shipper α) :
    (s.accepted ++ s.linesPosted false).Perm s.postedLines := by
  have hpartition := List.filter_append_perm (fun batch => decide (batch.delivered = true)) s.posted
  have hlines := hpartition.flatMap_right (·.lines)
  rw [List.flatMap_append] at hlines
  simpa [accepted, linesPosted, postedLines] using hlines

/-- If all lines are different, one that the queue refused is in no batch, and not in the queue. -/
theorem Accounts.refused {found : List α} (h : s.Accounts found wasted) (hfound : found.Nodup)
    {line : α} (hline : line ∈ s.refused) : line ∉ s.through ++ s.queue := by
  classical
  intro hthrough
  have hplaces :
      s.refused.count line + (s.through ++ s.queue).count line ≤ s.places.count line := by
    have hposted := s.accepted_append_perm.count_eq line
    simp only [places, counted, underWay, through, List.count_append] at hposted ⊢
    omega
  have honce := List.nodup_iff_count.1 (h.lines.nodup_iff.2 hfound) line
  have hrefused := List.count_pos_iff.2 hline
  have htwice := List.count_pos_iff.2 hthrough
  omega

end Shipper

end ProtocolGateway

import ProtocolGateway.Proofs.Shipping.Batches
import ProtocolGateway.Settings.Problem
import ProtocolGateway.Shipping.Line

/-!
# Closing a shipper

Lines that are in the queue when a shipper is closed are promised to be posted: the batcher goes on
to take them until it finds the queue empty, and nothing that happens meanwhile takes one from
between. Writers can add no more than the lines they have in hand, so each step that changes
anything brings the end nearer, and the batcher can always take such a step until it has ended.

Of a batcher that has no room for a batch none of this holds, since it never begins.

## Main definitions

* `Shipper.promised`: the lines that have come through the queue or are still going to.
* `Shipper.toDo`: how far the end is away at most.
* `Shipper.Able`: what holds of a batcher with room for a batch at any time.

## Main results

* `Shipper.promised_step`: lines that are promised stay so.
* `Shipper.Moves.toDo`: each step of a shipper that is closed brings its end nearer.
* `Shipper.isGone_work`: the batcher comes to its end.
* `Shipper.batches_keep_lines`: what becomes of lines in the batches.
* `Shipper.closing_posts_nothing`: closing a shipper whose batcher cannot begin.
-/

namespace ProtocolGateway

namespace BatcherStage

/-- Whether the batcher has taken its last line. -/
def isDone (stage : BatcherStage) : Bool := stage.isLate || stage.isGone

/-- Whether the batcher has not been told to stop. -/
def isEarly : BatcherStage → Bool
  | .starting | .collecting | .posting => true
  | _ => false

variable {a b : BatcherStage}

theorem not_isDone_of_isEarly (h : a.isEarly = true) : a.isDone = false := by
  cases a with
  | starting | collecting | posting => rfl
  | _ => cases h

theorem Takes.not_isDone (h : a.Takes b) : a.isDone = false := by cases h <;> rfl

theorem Takes.not_isDone_full (h : a.Takes b) : b.isDone = false := by cases h <;> rfl

end BatcherStage

namespace Shipper

variable {α : Type} {s s' : Shipper α} {e : ShipperStep α}

/-- The lines in the queue that the batcher is still going to take. -/
def awaited (s : Shipper α) : List α := if s.stage.isDone then [] else s.queue

/-- The lines that have come through the queue or are still going to. -/
def promised (s : Shipper α) : List α := s.through ++ s.awaited

/-- **Lines that are promised stay so**, in their order, if there is room for a batch. -/
theorem promised_step (hroom : s.limits.batchSize ≤ maxRoom) (e : ShipperStep α) :
    s.promised <+: (s.step e).promised := by
  rw [promised, promised, through_step, List.append_assoc, List.prefix_append_right_inj]
  have hmoves := moves_step s e
  generalize hnext : s.step e = next at hmoves
  cases hmoves with
  | stay => rw [receivedBy_of_stay hnext]; exact List.prefix_rfl
  | look | refuse | closeWriter | close => exact List.prefix_rfl
  | enqueue place line _ _ =>
    show (if s.stage.isDone then [] else s.queue) <+:
      [] ++ if s.stage.isDone then [] else s.queue ++ [line]
    split
    · exact List.prefix_rfl
    · exact List.prefix_append ..
  | crash _ hcrash => exact absurd hroom (Nat.not_le.2 hcrash)
  | start hstage _ | tick hstage _ | notice hstage _ =>
    rw [awaited, hstage]
    exact List.prefix_rfl
  | take line queue full next hstage hqueue hfull =>
    have hdone : next.isDone = false := by
      rw [hfull]
      split
      · exact hstage.not_isDone_full
      · exact hstage.not_isDone
    rw [awaited, awaited, hstage.not_isDone, hdone, receivedBy, if_pos hstage.isTaking, hqueue]
    exact List.prefix_rfl
  | exhaust hstage hqueue =>
    rw [awaited, hqueue, ite_self]
    exact List.nil_prefix
  | answered delivered next hstage =>
    rcases hstage.eq with ⟨hs, rfl⟩ | ⟨hs, rfl⟩ | ⟨hs, rfl⟩
    · rw [awaited, hs]
      exact List.prefix_rfl
    · rw [awaited, hs]
      exact List.prefix_rfl
    -- After its last batch the batcher does not look at the queue again.
    · rw [awaited, hs]
      exact List.nil_prefix
  | finish hstage =>
    rw [awaited, hstage]
    exact List.nil_prefix

/-- What the batcher still has to do at its stage. -/
def effort (s : Shipper α) : Nat :=
  match s.stage with
  | .starting => 6
  | .collecting => 3 + 2 * min 1 s.batch.length
  | .posting => 4
  | .draining => 2 + min 1 s.batch.length
  | .drainPosting => 3
  | .lastPosting => 2
  | .ending => 1
  | .ended | .crashed => 0

/-- What is still to be done once the shipper is closed. A line in the queue may make it necessary
to post a batch, and a line in hand may still be queued. -/
def toDo (s : Shipper α) : Nat := 4 * s.inHand.length + 3 * s.queue.length + s.effort

theorem effort_take {full next : BatcherStage} (line : α) (queue : List α)
    (hstage : s.stage.Takes full) (hnext : next = full ∨ next = s.stage) :
    effort { s with queue, batch := s.batch ++ [line], stage := next } ≤ s.effort + 2 := by
  rcases hstage.eq with ⟨hs, rfl⟩ | ⟨hs, rfl⟩ <;> rcases hnext with rfl | rfl
  all_goals
    simp only [effort, hs]
    omega

theorem effort_answered {next : BatcherStage} (hstage : s.stage.Posts next) (delivered : Bool) :
    effort { s.recordBatch delivered with stage := next } < s.effort := by
  rcases hstage.eq with ⟨hs, rfl⟩ | ⟨hs, rfl⟩ | ⟨hs, rfl⟩
  all_goals simp [effort, hs, recordBatch]

theorem toDo_leave {gone : BatcherStage} (hgone : gone.isGone = true) (heffort : 0 < s.effort) :
    (s.leave gone).toDo < s.toDo := by
  have hnone : (s.leave gone).effort = 0 := by
    cases gone with
    | ended | crashed => rfl
    | _ => cases hgone
  show 4 * s.inHand.length + 3 * 0 + (s.leave gone).effort < _
  rw [toDo, hnone]
  omega

/-- **A step brings a shipper that is closed nearer to its end**, if it changes anything. -/
theorem Moves.toDo (h : s.Moves e s') (hopen : s.isOpen = false) (hstopping : s.stopping = true) :
    s' = s ∨ s'.toDo < s.toDo := by
  cases h with
  | stay => exact .inl rfl
  | look line hlook => rw [hopen] at hlook; cases hlook
  | closeWriter => left; rw [← hopen]
  | close => left; rw [← hopen, ← hstopping]
  | enqueue place line hline _ =>
    right
    obtain ⟨hlt, -⟩ := List.getElem?_eq_some_iff.1 hline
    show 4 * (s.inHand.eraseIdx place).length + 3 * (s.queue ++ [line]).length + s.effort < s.toDo
    rw [List.length_eraseIdx_of_lt hlt, List.length_append, List.length_singleton, Shipper.toDo]
    omega
  | refuse place line hline _ =>
    right
    obtain ⟨hlt, -⟩ := List.getElem?_eq_some_iff.1 hline
    show 4 * (s.inHand.eraseIdx place).length + 3 * s.queue.length + s.effort < s.toDo
    rw [List.length_eraseIdx_of_lt hlt, Shipper.toDo]
    omega
  | crash hstage _ | finish hstage =>
    right
    exact toDo_leave rfl (by simp [effort, hstage])
  | take line queue full next hstage hqueue hnext =>
    right
    have heffort := effort_take line queue hstage (hnext ▸ ite_eq_or_eq ..)
    show 4 * s.inHand.length + 3 * queue.length + _ < s.toDo
    rw [Shipper.toDo, hqueue, List.length_cons]
    omega
  | start hstage _ | notice hstage _ =>
    right
    refine Nat.add_lt_add_left ?_ _
    simp only [effort, hstage]
    omega
  | tick hstage hbatch =>
    right
    have hlines := List.length_pos_iff.2 hbatch
    refine Nat.add_lt_add_left ?_ _
    simp only [effort, hstage]
    omega
  | exhaust hstage _ =>
    right
    refine Nat.add_lt_add_left ?_ _
    by_cases hbatch : s.batch = []
    · simp [effort, hstage, hbatch]
    · have hlines := List.length_pos_iff.2 hbatch
      simp [effort, hstage, hbatch]
      omega
  | answered delivered next hstage =>
    right
    exact Nat.add_lt_add_left (effort_answered hstage delivered) _

/-! ### A shipper that is closed -/

/-- The shipper was closed. -/
structure Closed (s : Shipper α) : Prop where
  isOpen : s.isOpen = false
  stopping : s.stopping = true

theorem Moves.closed (h : s.Moves e s') (hclosed : s.Closed) : s'.Closed := by
  cases h with
  | closeWriter => exact ⟨rfl, hclosed.stopping⟩
  | close => exact ⟨rfl, rfl⟩
  | _ => exact ⟨hclosed.isOpen, hclosed.stopping⟩

theorem Closed.run (h : s.Closed) (steps : List (ShipperStep α)) : (s.run steps).Closed := by
  induction steps generalizing s with
  | nil => exact h
  | cons e steps ih => exact ih ((moves_step s e).closed h)

/-- What the batcher does next is not in vain. -/
theorem step_next?_ne (h : s.Closed) (hgone : s.stage.isGone = false) (reached : Bool) :
    ∃ e, s.next? reached = some e ∧ s.step e ≠ s := by
  have hchanged (e : ShipperStep α) (hstage : (s.step e).stage ≠ s.stage) : s.step e ≠ s :=
    mt (congrArg stage) hstage
  cases hs : s.stage with
  | starting =>
    refine ⟨.start, by rw [next?, hs], hchanged _ ?_⟩
    rw [step, if_pos hs, start, hs]
    split <;> simp [leave]
  | collecting =>
    refine ⟨.notice, by simp [next?, hs, h.stopping], hchanged _ ?_⟩
    simp [step, hs, h.stopping]
  | posting | drainPosting | lastPosting =>
    refine ⟨.answered reached, by rw [next?, hs], hchanged _ ?_⟩
    simp [step, answered, hs]
  | draining =>
    refine ⟨.receive, by rw [next?, hs], ?_⟩
    cases hqueue : s.queue with
    | nil =>
      refine hchanged _ ?_
      simp only [step, receive, hs, hqueue]
      split <;> simp
    | cons line queue =>
      refine mt (congrArg Shipper.queue) ?_
      simp [step, receive, hs, hqueue, addToBatch]
  | ending =>
    refine ⟨.finish, by rw [next?, hs], hchanged _ ?_⟩
    simp [step, hs, leave]
  | ended | crashed => rw [hs] at hgone; cases hgone

theorem isGone_of_toDo (h : s.toDo = 0) : s.stage.isGone = true := by
  have heffort : s.effort = 0 := by
    rw [toDo] at h
    omega
  cases hs : s.stage with
  | ended | crashed => rfl
  | _ => simp [effort, hs] at heffort

/-- **The batcher of a shipper that is closed comes to its end**, if nobody interferes. -/
theorem isGone_work (h : s.Closed) (reached : Bool) {n : Nat} (hn : s.toDo ≤ n) :
    (s.work reached n).stage.isGone = true := by
  induction n generalizing s with
  | zero => exact isGone_of_toDo (Nat.le_zero.1 hn)
  | succ n ih =>
    cases hgone : s.stage.isGone with
    | true =>
      have hnone : s.next? reached = none := by
        cases hs : s.stage with
        | ended | crashed => rw [next?, hs]
        | _ => rw [hs] at hgone; cases hgone
      rw [work, hnone]
      exact hgone
    | false =>
      obtain ⟨e, hnext, hne⟩ := step_next?_ne h hgone reached
      rw [work, hnext]
      refine ih ((moves_step s e).closed h) ?_
      have hless := ((moves_step s e).toDo h.isOpen h.stopping).resolve_left hne
      omega

/-- What the batcher does by itself is a run. -/
theorem exists_work_eq_run (reached : Bool) (n : Nat) (s : Shipper α) :
    ∃ steps, s.work reached n = s.run steps := by
  induction n generalizing s with
  | zero => exact ⟨[], rfl⟩
  | succ n ih =>
    rw [work]
    cases s.next? reached with
    | none => exact ⟨[], rfl⟩
    | some e =>
      obtain ⟨steps, hsteps⟩ := ih (s.step e)
      exact ⟨e :: steps, hsteps⟩

/-! ### A batcher that can begin -/

/-- The batcher has room for a batch. So it does not crash, and unless it is told to stop it does
not drain the queue. -/
structure Able (s : Shipper α) : Prop where
  room : s.limits.batchSize ≤ maxRoom
  stage : s.stage ≠ .crashed
  early : s.stopping = false → s.stage.isEarly = true

theorem able_ofSettings {settings : LogShippingSettings} (hroom : settings.batchSize ≤ maxRoom) :
    (ofSettings settings : Shipper α).Able where
  room := Nat.max_le.2 ⟨by decide, hroom⟩
  stage := BatcherStage.noConfusion
  early _ := rfl

/-- The stages at which a batcher with room can be while it is not told to stop. -/
theorem Able.isEarly (h : s.Able) (hstopping : s.stopping = false) {stage : BatcherStage}
    (hstage : s.stage = stage) : stage.isEarly = true := hstage ▸ h.early hstopping

theorem Moves.stage_ne_crashed (h : s.Moves e s') (hable : s.Able) : s'.stage ≠ .crashed := by
  cases h with
  | stay | look | enqueue | refuse | closeWriter | close => exact hable.stage
  | crash _ hcrash => exact absurd hable.room (Nat.not_le.2 hcrash)
  | take line queue full next hstage _ hnext =>
    rw [hnext]
    split
    · rcases hstage.eq with ⟨-, rfl⟩ | ⟨-, rfl⟩ <;> exact BatcherStage.noConfusion
    · exact hable.stage
  | exhaust hstage _ =>
    show (if s.batch.isEmpty then BatcherStage.ending else .lastPosting) ≠ .crashed
    split <;> exact BatcherStage.noConfusion
  | answered delivered next hstage =>
    rcases hstage.eq with ⟨-, rfl⟩ | ⟨-, rfl⟩ | ⟨-, rfl⟩ <;> exact BatcherStage.noConfusion
  | start | tick | notice | finish => exact BatcherStage.noConfusion

theorem Moves.isEarly (h : s.Moves e s') (hable : s.Able) (hstopping : s'.stopping = false) :
    s'.stage.isEarly = true := by
  cases h with
  | stay | look | enqueue | refuse | closeWriter => exact hable.early hstopping
  | start | tick => rfl
  | crash _ hcrash => exact absurd hable.room (Nat.not_le.2 hcrash)
  | close => cases hstopping
  | notice _ hnotice => exact absurd (hnotice.symm.trans hstopping) (by decide)
  | take line queue full next hstage _ hnext =>
    rcases hstage.eq with ⟨hs, rfl⟩ | ⟨hs, rfl⟩
    · rw [hnext, hs]
      split <;> rfl
    · cases hable.isEarly hstopping hs
  | exhaust hstage _ | finish hstage => cases hable.isEarly hstopping hstage
  | answered delivered next hstage =>
    rcases hstage.eq with ⟨-, rfl⟩ | ⟨hs, -⟩ | ⟨hs, -⟩
    · rfl
    · cases hable.isEarly hstopping hs
    · cases hable.isEarly hstopping hs

theorem Able.step (h : s.Able) (e : ShipperStep α) : (s.step e).Able where
  room := by rw [(moves_step s e).limits_eq]; exact h.room
  stage := (moves_step s e).stage_ne_crashed h
  early := (moves_step s e).isEarly h

theorem Able.run (h : s.Able) (steps : List (ShipperStep α)) : (s.run steps).Able := by
  induction steps generalizing s with
  | nil => exact h
  | cons e steps ih => exact ih (h.step e)

theorem Able.stage_of_isGone (h : s.Able) (hgone : s.stage.isGone = true) : s.stage = .ended := by
  cases hs : s.stage with
  | ended => rfl
  | crashed => exact absurd hs h.stage
  | _ => rw [hs] at hgone; cases hgone

theorem Able.promised_run (h : s.Able) (steps : List (ShipperStep α)) :
    s.promised <+: (s.run steps).promised := by
  induction steps generalizing s with
  | nil => exact List.prefix_rfl
  | cons e steps ih => exact (promised_step h.room e).trans (ih (h.step e))

/-- Only whoever closes the shipper tells the batcher to stop. -/
theorem Moves.stopping_eq (h : s.Moves e s') (he : e ≠ .close) : s'.stopping = s.stopping := by
  cases h with
  | close => exact absurd rfl he
  | _ => rfl

theorem stopping_run {steps : List (ShipperStep α)} (hclose : .close ∉ steps) :
    (s.run steps).stopping = s.stopping := by
  induction steps generalizing s with
  | nil => rfl
  | cons e steps ih =>
    rw [List.mem_cons, not_or] at hclose
    exact (ih hclose.2).trans ((moves_step s e).stopping_eq (Ne.symm hclose.1))

/-- All that was queued when the shipper was closed was promised. -/
theorem promised_close (hearly : s.stage.isEarly = true) :
    (s.step .close).promised = s.through ++ s.queue := by
  show s.through ++ (if s.stage.isDone then [] else s.queue) = _
  rw [BatcherStage.not_isDone_of_isEarly hearly]
  rfl

/-- When the batcher is gone, it has posted all that was promised. -/
theorem promised_of_isGone {wasted : List α} (h : s.Stands wasted) (hgone : s.stage.isGone = true) :
    s.promised = s.postedLines := by
  have hdone : s.stage.isDone = true := by rw [BatcherStage.isDone, hgone, Bool.or_true]
  rw [promised, awaited, if_pos hdone, through, (h.gone hgone).1, List.append_nil, List.append_nil]

/-! ### Batches and lines -/

/-- **Batches keep the lines**, for all settings with which there is a shipper and all orders in
which writers, batcher, clock, collector and closing take their steps.

The batches one after another are the lines that were taken out of the queue, in the order in which
it took them; no batch is posted twice, and no line that was refused is in one. Each batch is full
unless the clock cut it or the queue was drained, and it is never empty. Batches that were not
accepted are counted, with their lines. From the document of a batch one can read its lines, if they
have no line breaks. And if there is room for a batch, what is queued when the shipper is closed is
posted when the batcher has ended, which it does in the end. -/
theorem batches_keep_lines {settings : LogShippingSettings} {start : Shipper α}
    (hopen : open? settings = some start) (text : α → List Char) (steps : List (ShipperStep α)) :
    let s := start.run steps
    let size := max 1 settings.batchSize
    s.postedLines ++ s.batch = start.receivedIn steps ∧
    start.receivedIn steps ++ s.queue ++ s.left = start.takenIn steps ∧
    s.queue.length ≤ max 1 settings.queueCapacity ∧
    List.Forall₂ (FitsCut size) s.begun (start.cutsIn steps) ∧
    (∀ more, s.posted <+: (s.run more).posted) ∧
    s.failures = s.failed.length + s.refused.length ∧
    s.lostLines = (s.failed.flatMap (·.lines)).length + s.refused.length ∧
    ((start.foundIn steps).Nodup → ∀ line ∈ s.refused, line ∉ s.postedLines ++ s.batch ++ s.queue) ∧
    (∀ batch ∈ s.posted, (∀ line ∈ batch.lines, '\n' ∉ text line) →
      Shipping.documentLines (Shipping.document (batch.lines.map text)) = batch.lines.map text) ∧
    (settings.batchSize ≤ maxRoom → .close ∉ steps → ∀ more,
      let t := (s.step .close).run more
      (t.stage = .ended → s.postedLines ++ s.batch ++ s.queue <+: t.postedLines) ∧
      (∀ e, t.step e = t ∨ (t.step e).toDo < t.toDo) ∧
      ∀ reached, (t.work reached t.toDo).stage = .ended) := by
  intro s size
  have hstart : start = ofSettings settings := by
    rw [open?] at hopen
    split at hopen
    · exact (Option.some.inj hopen).symm
    · cases hopen
  subst hstart
  have hbatched : s.Batched _ _ _ _ := (batched_ofSettings settings).run steps
  have haccounts : s.Accounts _ _ := (accounts_ofSettings settings).run steps
  obtain ⟨hlimits, hthrough, htaken, -, hcapacity, -, hbegun, hfailures⟩ := hbatched
  rw [List.nil_append] at hthrough htaken hbegun
  refine ⟨hthrough, htaken, ?_, ?_, posted_run s, hfailures, ?_, ?_, ?_, ?_⟩
  · rw [hlimits] at hcapacity
    exact hcapacity
  · rw [hlimits] at hbegun
    exact hbegun
  · rw [haccounts.lost, counted, List.length_append]
    rfl
  · intro hfound line hline
    exact haccounts.refused hfound hline
  · intro batch _ hlines
    exact Shipping.documentLines_document (by simpa using hlines)
  · intro hroom hclose more t
    have hable : s.Able := (able_ofSettings hroom).run steps
    have hclosed : t.Closed := Closed.run ⟨rfl, rfl⟩ more
    refine ⟨?_, fun e => (moves_step t e).toDo hclosed.isOpen hclosed.stopping, ?_⟩
    · intro hended
      have hearly := hable.early (stopping_run hclose)
      have hstands := ((haccounts.step .close).run more).stands
      have hpromised := (hable.step .close).promised_run more
      rw [promised_close hearly, promised_of_isGone hstands (hended ▸ rfl)] at hpromised
      exact hpromised
    · intro reached
      obtain ⟨rest, hrest⟩ := exists_work_eq_run reached t.toDo t
      have hgone := isGone_work hclosed reached (Nat.le_refl t.toDo)
      rw [hrest] at hgone ⊢
      exact (((hable.step .close).run more).run rest).stage_of_isGone hgone

/-- Two lines are queued and a third is refused; the first batch is lost, and the line that comes
after it waits for the shipper to be closed. -/
def busy : List (ShipperStep Nat) :=
  [.look 1, .enqueue 0, .look 2, .enqueue 0, .look 3, .enqueue 0, .start, .receive, .receive,
    .answered false, .look 4, .enqueue 0]

/-- The batches of this run keep its lines, and closing posts the last one. -/
theorem batches_keep_lines_busy :
    let start : Shipper Nat := ofSettings { batchSize := 2, queueCapacity := 2 }
    let s := start.run busy
    let t := (s.step .close).run [.notice, .receive, .tick, .receive, .answered true, .finish]
    open? { batchSize := 2, queueCapacity := 2 } = some start ∧
    s.postedLines ++ s.batch = [1, 2] ∧
    List.Forall₂ (FitsCut 2) s.begun [.full] ∧
    s.failures = 2 ∧ s.lostLines = 3 ∧
    3 ∉ s.postedLines ++ s.batch ++ s.queue ∧
    Shipping.documentLines (Shipping.document (([1, 2] : List Nat).map (Nat.toDigits 10))) =
      [['1'], ['2']] ∧
    [1, 2, 4] <+: t.postedLines ∧ (t.work true t.toDo).stage = .ended := by
  intro start s t
  have hopen : open? { batchSize := 2, queueCapacity := 2 } = some start := by
    rw [open?, if_pos (by decide +kernel)]
  obtain ⟨horder, -, -, hcuts, -, hfailures, hlost, hrefused, htexts, hclosing⟩ :=
    batches_keep_lines hopen (Nat.toDigits 10) busy
  obtain ⟨hended, -, hwork⟩ := hclosing (by decide +kernel) (by decide)
    [.notice, .receive, .tick, .receive, .answered true, .finish]
  have hreceived : start.receivedIn busy = [1, 2] := by decide +kernel
  have hfull : start.cutsIn busy = [.full] := by decide +kernel
  have hthree : 3 ∈ s.refused := by decide +kernel
  have hfailed : s.failed.length + s.refused.length = 2 := by decide +kernel
  have hlosses : (s.failed.flatMap (·.lines)).length + s.refused.length = 3 := by decide +kernel
  have hposted : ⟨[1, 2], false⟩ ∈ s.posted := by decide +kernel
  have hstage : t.stage = .ended := by decide +kernel
  have hlines : s.postedLines ++ s.batch ++ s.queue = [1, 2, 4] := by decide +kernel
  rw [hreceived] at horder
  rw [hfull] at hcuts
  rw [hlines] at hended
  exact ⟨hopen, horder, hcuts, hfailures.trans hfailed, hlost.trans hlosses,
    hrefused (by decide +kernel) 3 hthree, htexts _ hposted (by decide +kernel), hended hstage,
    hwork true⟩

/-- **Closing posts nothing of what is queued** if the batcher cannot reserve room for a batch. And
with a queue that is too long for the host there is no shipper to be closed, although settings with
it are accepted. -/
theorem closing_posts_nothing :
    (let s : Shipper Nat := ofSettings { batchSize := 9223372036854775807 }
     let t := s.run [.look 1, .enqueue 0, .close, .start]
     t.stage = .crashed ∧ t.posted = [] ∧ t.left = [1]) ∧
    (let shipping : LogShippingSettings :=
      { enabled := true, endpoint := "http://127.0.0.1:9000/", queueCapacity := maxSlots + 1 }
     ({ logShipping := shipping } : Settings).Valid ∧
      (open? shipping : Option (Shipper Nat)).isNone) := by
  decide +kernel

end Shipper

end ProtocolGateway

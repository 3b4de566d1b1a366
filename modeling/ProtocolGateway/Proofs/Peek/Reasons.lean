import ProtocolGateway.Proofs.Peek.Decision

/-!
# The one reason that applies

Whatever the matchers are, the reading of the first bytes ends for a reason that can be read off
what the client sent: some beginning of it, not longer than the limit, is accepted or refused; or
all that may be read leaves the matchers undecided; or all that was sent does, and then it matters
how the client has ended.

Of matchers whose answers persist one reason applies only, so that it is the reason.

## Main definitions

* `Peek.Applies`: an outcome applies to a client.
* `Peek.settled`: the one that does, if the answers of the matchers persist.

## Main results

* `Peek.applies_read`: the outcome of reading applies.
* `Peek.applies_iff`: no other does, if the answers of the matchers persist.
-/

namespace ProtocolGateway.Peek

/-- An outcome applies to a client that sends these bytes and ends in this way. -/
def Applies (matchers : List Matcher) (limit : Nat) (ending : Ending) (bytes : Bytes) :
    Outcome → Prop
  | .handler index =>
    ∃ seen, seen <+: bytes ∧ seen.length ≤ limit ∧ classify matchers seen = .matched index
  | .dropped .noMatch =>
    ∃ seen, seen <+: bytes ∧ seen.length ≤ limit ∧ classify matchers seen = .rejected
  | .dropped .bufferFull =>
    limit ≤ bytes.length ∧ classify matchers (bytes.take limit) = .incomplete
  | .dropped reason =>
    bytes.length < limit ∧ classify matchers bytes = .incomplete ∧ reason = endReason ending

variable {matchers : List Matcher} {limit : Nat} {ending : Ending} {choices : List Nat}
variable {bytes buffered rest : Bytes} {outcome : Outcome}

theorem applies_endReason (hlt : bytes.length < limit)
    (hverdict : classify matchers bytes = .incomplete) :
    Applies matchers limit ending bytes (.dropped (endReason ending)) := by
  cases ending <;> exact ⟨hlt, hverdict, rfl⟩

/-- **The outcome of reading applies.** -/
theorem applies_read (hle : buffered.length ≤ limit) :
    Applies matchers limit ending (buffered ++ rest)
      (read matchers limit ending choices buffered rest).outcome := by
  fun_induction read matchers limit ending choices buffered rest with
  | case1 choices buffered rest index hnext =>
    exact ⟨buffered, List.prefix_append _ _, hle, next_eq_matched_iff.1 hnext⟩
  | case2 choices buffered rest reason hnext =>
    rcases next_eq_dropped_iff.1 hnext with ⟨hverdict, rfl⟩ | ⟨hverdict, hfull, rfl⟩
    · exact ⟨buffered, List.prefix_append _ _, hle, hverdict⟩
    · have hlength : buffered.length = limit := Nat.le_antisymm hle hfull
      refine ⟨?_, ?_⟩
      · rw [List.length_append]
        omega
      · rw [List.take_left' hlength, hverdict]
  | case3 choices buffered rest want hnext got hgot =>
    obtain ⟨hverdict, hlt, -⟩ := next_eq_ask_iff.1 hnext
    obtain rfl : rest = [] := (receive_eq_nil_iff_of_ask hnext _).1 hgot
    rw [List.append_nil]
    exact applies_endReason hlt hverdict
  | case4 choices buffered rest want hnext got hgot ih =>
    have hfits : (buffered ++ got.1).length ≤ limit := by
      have hgotle : got.1.length ≤ want := length_receive_le
      have hask := lt_of_next_eq_ask hnext
      rw [List.length_append]
      omega
    have happ : buffered ++ got.1 ++ got.2 = buffered ++ rest := by
      rw [List.append_assoc, receive_append]
    exact happ ▸ ih hfits

/-! ### Matchers whose answers persist -/

/-- What the verdict on all that may be read comes to. -/
def settled (limit : Nat) (ending : Ending) (bytes : Bytes) : Verdict → Outcome
  | .matched index => .handler index
  | .rejected => .dropped .noMatch
  | .incomplete => .dropped (if limit ≤ bytes.length then .bufferFull else endReason ending)

/-- The verdict on all that may be read is the one that was found on the way. -/
theorem classify_take (h : ∀ m ∈ matchers, m.Persistent) {seen : Bytes} (hseen : seen <+: bytes)
    (hle : seen.length ≤ limit) (hverdict : classify matchers seen ≠ .incomplete) :
    classify matchers (bytes.take limit) = classify matchers seen := by
  obtain ⟨more, rfl⟩ := hseen
  rw [List.take_append, List.take_of_length_le hle, classify_append h hverdict]

theorem settled_of_lt (hlt : bytes.length < limit)
    (hverdict : classify matchers bytes = .incomplete) :
    settled limit ending bytes (classify matchers (bytes.take limit)) =
      .dropped (endReason ending) := by
  rw [List.take_of_length_le (Nat.le_of_lt hlt), hverdict, settled, if_neg (Nat.not_le_of_lt hlt)]

/-- What applies is settled by the verdict on all that may be read. -/
theorem Applies.eq (h : ∀ m ∈ matchers, m.Persistent)
    (happlies : Applies matchers limit ending bytes outcome) :
    outcome = settled limit ending bytes (classify matchers (bytes.take limit)) := by
  match outcome, happlies with
  | .handler index, ⟨seen, hseen, hle, hverdict⟩ =>
    rw [classify_take h hseen hle (by simp [hverdict]), hverdict, settled]
  | .dropped .noMatch, ⟨seen, hseen, hle, hverdict⟩ =>
    rw [classify_take h hseen hle (by simp [hverdict]), hverdict, settled]
  | .dropped .bufferFull, ⟨hlong, hverdict⟩ => rw [hverdict, settled, if_pos hlong]
  | .dropped .closed, ⟨hlt, hverdict, hreason⟩ => rw [settled_of_lt hlt hverdict, hreason]
  | .dropped .timeout, ⟨hlt, hverdict, hreason⟩ => rw [settled_of_lt hlt hverdict, hreason]
  | .dropped .io, ⟨hlt, hverdict, hreason⟩ => rw [settled_of_lt hlt hverdict, hreason]

/-- **No other outcome applies** than that of reading, if the answers of the matchers persist. -/
theorem applies_iff (h : ∀ m ∈ matchers, m.Persistent) (choices : List Nat) :
    Applies matchers limit ending bytes outcome ↔
      outcome = (read matchers limit ending choices [] bytes).outcome := by
  have hread : Applies matchers limit ending bytes
      (read matchers limit ending choices [] bytes).outcome := applies_read (Nat.zero_le _)
  refine ⟨fun happlies => (happlies.eq h).trans (hread.eq h).symm, ?_⟩
  rintro rfl
  exact hread

end ProtocolGateway.Peek

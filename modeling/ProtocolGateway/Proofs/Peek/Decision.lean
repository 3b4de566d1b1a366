import ProtocolGateway.Peek.Reading
import ProtocolGateway.Proofs.Peek.Persistence

/-!
# The decision does not depend on the pieces

A client that closes its side after some bytes is read piece by piece, and the matchers are asked
again after each piece. How the network cuts the bytes into pieces must not matter: what becomes of
the connection is decided by the verdict on as many of the bytes as may be read at most.

## Main definitions

* `Peek.decision`: the decision as a function of the bytes alone.
* `Peek.Outcome`: what is decided, apart from the bytes.

## Main results

* `Peek.outcome_read`: reading decides as `Peek.decision` does, for matchers whose answers persist.
* `Peek.append_of_read_eq_matched`: no byte is lost on the way to a winner.
* `Peek.lt_of_next_eq_ask`: every read asks for something, and not for more than the limit allows.
* `Peek.decided_by_first_bytes`: all of it together.
-/

namespace ProtocolGateway.Peek

/-- What is decided on a connection. -/
inductive Outcome where
  /-- The handler at this place gets it. -/
  | handler (index : Nat)
  | dropped (reason : DropReason)
deriving DecidableEq, Repr

/-- What is decided, apart from the bytes that were read for it. -/
def Result.outcome : Result → Outcome
  | .matched index _ _ => .handler index
  | .dropped reason => .dropped reason

/-- What is decided on a client that sends these bytes and then closes its side: the verdict is that
on the first bytes, as many as there are up to the limit. -/
def decision (matchers : List Matcher) (limit : Nat) (bytes : Bytes) : Outcome :=
  match classify matchers (bytes.take (min limit bytes.length)) with
  | .matched index => .handler index
  | .rejected => .dropped .noMatch
  | .incomplete => .dropped (if limit ≤ bytes.length then .bufferFull else .closed)

variable {matchers : List Matcher} {limit index want : Nat} {ending : Ending} {choices : List Nat}
variable {buffered rest : Bytes}

/-! ### One step -/

theorem next_eq_matched_iff :
    next matchers limit buffered = .matched index ↔
      classify matchers buffered = .matched index := by
  rw [next]
  cases classify matchers buffered with
  | matched i => simp
  | rejected => simp
  | incomplete => by_cases h : limit ≤ buffered.length <;> simp [h]

theorem next_eq_dropped_iff {reason : DropReason} :
    next matchers limit buffered = .dropped reason ↔
      classify matchers buffered = .rejected ∧ reason = .noMatch ∨
      classify matchers buffered = .incomplete ∧ limit ≤ buffered.length ∧
        reason = .bufferFull := by
  rw [next]
  cases classify matchers buffered with
  | matched i => simp
  | rejected => simp [eq_comm]
  | incomplete => by_cases h : limit ≤ buffered.length <;> simp [h, eq_comm]

theorem next_eq_ask_iff :
    next matchers limit buffered = .ask want ↔
      classify matchers buffered = .incomplete ∧ buffered.length < limit ∧
        want = min (limit - buffered.length) pieceSize := by
  rw [next]
  cases classify matchers buffered with
  | matched i => simp
  | rejected => simp
  | incomplete =>
    by_cases h : limit ≤ buffered.length
    · simp [h, Nat.not_lt_of_le h]
    · simp [h, Nat.lt_of_not_le h, eq_comm]

/-- **What is asked for.** There is room below the limit whenever more is asked for, and what is
asked for is something and fits into that room. -/
theorem lt_of_next_eq_ask (h : next matchers limit buffered = .ask want) :
    buffered.length < limit ∧ 0 < want ∧ buffered.length + want ≤ limit := by
  obtain ⟨-, hlt, rfl⟩ := next_eq_ask_iff.1 h
  have hpos : 0 < pieceSize := by decide
  omega

/-- A read on the way to a decision gives nothing only if nothing is left. -/
theorem receive_eq_nil_iff_of_ask (h : next matchers limit buffered = .ask want) (choice : Nat) :
    (receive want choice rest).1 = [] ↔ rest = [] := by
  rw [receive_eq_nil_iff, or_iff_right (Nat.ne_of_gt (lt_of_next_eq_ask h).2.1)]

/-! ### The whole reading -/

/-- The bytes of a connection are those that were read and those that are still on the way, wherever
the reading ends with a winner; and the verdict is that on those that were read. -/
theorem append_of_read_eq_matched {b r : Bytes}
    (h : read matchers limit ending choices buffered rest = .matched index b r) :
    b ++ r = buffered ++ rest ∧ classify matchers b = .matched index := by
  fun_induction read matchers limit ending choices buffered rest with
  | case1 choices buffered rest i hnext =>
    obtain ⟨rfl, rfl, rfl⟩ : i = index ∧ buffered = b ∧ rest = r := by simpa using h
    exact ⟨rfl, next_eq_matched_iff.1 hnext⟩
  | case2 => simp at h
  | case3 => simp at h
  | case4 choices buffered rest want hnext got hgot ih =>
    obtain ⟨happ, hverdict⟩ := ih h
    refine ⟨?_, hverdict⟩
    rw [happ, List.append_assoc, receive_append]

/-- While no more has been read than the limit allows, that is the start of what the decision is
made on. -/
theorem take_min_append (h : buffered.length ≤ limit) :
    (buffered ++ rest).take (min limit (buffered ++ rest).length) =
      buffered ++ rest.take (limit - buffered.length) := by
  rw [← List.take_eq_take_min, List.take_append, List.take_of_length_le h]

/-- A verdict on what has been read is the decision. -/
theorem decision_of_classify (h : ∀ m ∈ matchers, m.Persistent) (hle : buffered.length ≤ limit)
    (hverdict : classify matchers buffered ≠ .incomplete) :
    classify matchers ((buffered ++ rest).take (min limit (buffered ++ rest).length)) =
      classify matchers buffered := by
  rw [take_min_append hle, classify_append h hverdict]

/-- The invariant of the reading: no more has been read than the limit allows, and the decision is
that on all bytes of the connection, those that were read and those on the way. -/
theorem outcome_read (h : ∀ m ∈ matchers, m.Persistent) (hle : buffered.length ≤ limit) :
    (read matchers limit .closed choices buffered rest).outcome =
      decision matchers limit (buffered ++ rest) := by
  fun_induction read matchers limit .closed choices buffered rest with
  | case1 choices buffered rest index hnext =>
    have hverdict := next_eq_matched_iff.1 hnext
    rw [decision, decision_of_classify h hle (by simp [hverdict]), hverdict, Result.outcome]
  | case2 choices buffered rest reason hnext =>
    rcases next_eq_dropped_iff.1 hnext with ⟨hverdict, rfl⟩ | ⟨hverdict, hfull, rfl⟩
    · rw [decision, decision_of_classify h hle (by simp [hverdict]), hverdict, Result.outcome]
    · have hroom : limit - buffered.length = 0 := by omega
      have hlong : limit ≤ (buffered ++ rest).length := by
        rw [List.length_append]
        omega
      rw [decision, take_min_append hle, hroom, List.take_zero, List.append_nil, hverdict,
        Result.outcome]
      simp only [if_pos hlong]
  | case3 choices buffered rest want hnext got hgot =>
    obtain ⟨hverdict, hlt, -⟩ := next_eq_ask_iff.1 hnext
    obtain rfl : rest = [] := (receive_eq_nil_iff_of_ask hnext _).1 hgot
    rw [decision, take_min_append hle, List.take_nil, List.append_nil, hverdict, Result.outcome,
      endReason]
    simp only [if_neg (Nat.not_le_of_lt hlt)]
  | case4 choices buffered rest want hnext got hgot ih =>
    have hfits : (buffered ++ got.1).length ≤ limit := by
      have hgotle : got.1.length ≤ want := length_receive_le
      have hask := lt_of_next_eq_ask hnext
      rw [List.length_append]
      omega
    rw [ih hfits, List.append_assoc, receive_append]

/-- **The decision on a connection.** Of matchers whose answers persist, as those of the gateway do,
the first bytes of a client that closes its side decide alone, however the network cuts them into
pieces. A winner gets all bytes; no matcher before it would have matched the client at any time;
every read asks for something within the limit, so that a read of nothing means the end. -/
theorem decided_by_first_bytes :
    (Matcher.http1.Persistent ∧ Matcher.http2.Persistent ∧ Matcher.any.Persistent) ∧
    ∀ matchers : List Matcher, (∀ m ∈ matchers, m.Persistent) → ∀ (limit : Nat) (bytes : Bytes),
      (∀ choices, (read matchers limit .closed choices [] bytes).outcome =
        decision matchers limit bytes) ∧
      (∀ choices index buffered rest,
        read matchers limit .closed choices [] bytes = .matched index buffered rest →
          buffered ++ rest = bytes ∧
          ∀ earlier < index, ∀ m, matchers[earlier]? = some m →
            ∀ seen, seen <+: bytes → m.inspect seen ≠ .matched) ∧
      (∀ buffered want, next matchers limit buffered = .ask want →
        buffered.length < limit ∧ 0 < want ∧ buffered.length + want ≤ limit ∧
        ∀ choice rest, (receive want choice rest).1 = [] ↔ rest = []) := by
  refine ⟨⟨Matcher.persistent_http1, Matcher.persistent_http2, Matcher.persistent_any⟩, ?_⟩
  intro matchers h limit bytes
  refine ⟨fun choices => outcome_read h (Nat.zero_le _), ?_, ?_⟩
  · intro choices index buffered rest hread
    obtain ⟨happ, hverdict⟩ := append_of_read_eq_matched hread
    refine ⟨happ, fun earlier hlt m hm seen hseen => ?_⟩
    rw [List.nil_append] at happ
    exact not_matched_of_classify h hverdict hlt hm (happ ▸ hseen)
  · intro buffered want hnext
    obtain ⟨hlt, hpos, hfits⟩ := lt_of_next_eq_ask hnext
    exact ⟨hlt, hpos, hfits, fun choice rest => receive_eq_nil_iff_of_ask hnext choice⟩

/-- A method that the limit cuts in two keeps even a matcher waiting that takes everything. -/
theorem decided_by_first_bytes_any :
    (∀ m ∈ [Matcher.http1, Matcher.any], m.Persistent) ∧
    (read [.http1, .any] 3 .closed [1, 1] [] (bytesOf "POST /")).outcome = .dropped .bufferFull ∧
    (read [.http1, .any] 3 .closed [2] [] (bytesOf "GEX")).outcome = .handler 1 := by
  have hpers : ∀ m ∈ [Matcher.http1, Matcher.any], m.Persistent := by
    intro m hm
    rcases List.mem_cons.1 hm with rfl | hm
    · exact Matcher.persistent_http1
    · rcases List.mem_singleton.1 hm with rfl
      exact Matcher.persistent_any
  have hdecided := decided_by_first_bytes.2 [.http1, .any] hpers 3
  refine ⟨hpers, ?_, ?_⟩
  · rw [(hdecided (bytesOf "POST /")).1 [1, 1]]
    decide +kernel
  · rw [(hdecided (bytesOf "GEX")).1 [2]]
    decide +kernel

end ProtocolGateway.Peek

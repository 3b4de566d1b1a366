import ProtocolGateway.Peek.Matcher

/-!
# Answers that persist

The first bytes of a connection are inspected again whenever more of them have come. For that to
make sense the answers of a matcher have to persist: once it has said yes or no, more bytes do not
make it change its mind. Then the verdict of a list of matchers persists too, as soon as it is one.

Nothing is asked of the answer that more bytes are needed: it may turn into either of the others.

## Main results

* `Matcher.persistent_http1`, `Matcher.persistent_http2`, `Matcher.persistent_any`: the matchers of
  the gateway are of this kind, as is every matcher of openings.
* `classify_append`: a verdict persists.
* `not_matched_of_classify`: who comes before the winner does not match the start of any connection
  that starts as this one.
-/

namespace ProtocolGateway

namespace Matcher

/-- Once the matcher has said yes or no, more bytes do not change its answer. -/
structure Persistent (m : Matcher) : Prop where
  /-- A yes stays a yes. -/
  matched : ∀ {data : Bytes} (more : Bytes), m.inspect data = .matched →
    m.inspect (data ++ more) = .matched
  /-- A no stays a no. -/
  noMatch : ∀ {data : Bytes} (more : Bytes), m.inspect data = .noMatch →
    m.inspect (data ++ more) = .noMatch

variable {openings : List Bytes} {data : Bytes}

theorem inspectOpenings_eq_matched_iff :
    inspectOpenings openings data = .matched ↔ ∃ o ∈ openings, o <+: data := by
  rw [inspectOpenings]
  split
  · next h => simpa using h
  · next h =>
    refine iff_of_false ?_ (by simpa using h)
    split <;> simp

theorem inspectOpenings_eq_noMatch_iff :
    inspectOpenings openings data = .noMatch ↔ ∀ o ∈ openings, ¬o <+: data ∧ ¬data <+: o := by
  rw [inspectOpenings]
  split
  · next h =>
    obtain ⟨o, ho, hpre⟩ := List.any_eq_true.1 h
    refine iff_of_false (by simp) fun hall => (hall o ho).1 (List.isPrefixOf_iff_prefix.1 hpre)
  · next hyes =>
    have hyes : ∀ o ∈ openings, ¬o <+: data := by simpa using hyes
    split
    · next h =>
      obtain ⟨o, ho, hpre⟩ := List.any_eq_true.1 h
      refine iff_of_false (by simp) fun hall => (hall o ho).2 (List.isPrefixOf_iff_prefix.1 hpre)
    · next hmore =>
      have hmore : ∀ o ∈ openings, ¬data <+: o := by simpa using hmore
      exact iff_of_true rfl fun o ho => ⟨hyes o ho, hmore o ho⟩

/-- Of two starts of the same data one is a start of the other. So an opening that neither starts
the data nor goes on with them cannot start anything longer. -/
theorem persistent_inspectOpenings (name : String) (openings : List Bytes) :
    Persistent ⟨name, inspectOpenings openings⟩ where
  matched more h := by
    obtain ⟨o, ho, hpre⟩ := inspectOpenings_eq_matched_iff.1 h
    exact inspectOpenings_eq_matched_iff.2 ⟨o, ho, hpre.trans (List.prefix_append ..)⟩
  noMatch {data} more h := by
    refine inspectOpenings_eq_noMatch_iff.2 fun o ho => ?_
    obtain ⟨hyes, hmore⟩ := inspectOpenings_eq_noMatch_iff.1 h o ho
    refine ⟨fun hpre => ?_, fun hpre => hmore ((List.prefix_append ..).trans hpre)⟩
    rcases List.prefix_or_prefix_of_prefix hpre (List.prefix_append data more) with hd | hd
    · exact hyes hd
    · exact hmore hd

theorem persistent_http1 : http1.Persistent := persistent_inspectOpenings ..

theorem persistent_http2 : http2.Persistent := persistent_inspectOpenings ..

theorem persistent_any : any.Persistent := ⟨fun _ _ => rfl, fun _ h => h⟩

theorem persistent_of_mem_registered {m : Matcher} (h : m ∈ registered) : m.Persistent := by
  rcases List.mem_cons.1 h with rfl | h
  · exact persistent_http1
  · rcases List.mem_singleton.1 h with rfl
    exact persistent_http2

end Matcher

/-! ### Verdicts -/

variable {matchers : List Matcher} {data : Bytes} {index : Nat}

theorem Verdict.later_eq_matched_iff {v : Verdict} :
    v.later = .matched index ↔ ∃ i, v = .matched i ∧ index = i + 1 := by
  cases v <;> simp [later, eq_comm]

theorem Verdict.later_eq_incomplete_iff {v : Verdict} :
    v.later = .incomplete ↔ v = .incomplete := by
  cases v <;> simp [later]

/-- **A verdict persists.** More bytes change it only while it is none. -/
theorem classify_append (h : ∀ m ∈ matchers, m.Persistent)
    (hdata : classify matchers data ≠ .incomplete) (more : Bytes) :
    classify matchers (data ++ more) = classify matchers data := by
  induction matchers with
  | nil => rfl
  | cons m rest ih =>
    have hm := h m List.mem_cons_self
    rw [classify] at hdata
    cases hi : m.inspect data with
    | matched => rw [classify, classify, hi, hm.matched more hi]
    | needMore => simp [hi] at hdata
    | noMatch =>
      have hrest : classify rest data ≠ .incomplete := by
        simpa [hi, Verdict.later_eq_incomplete_iff] using hdata
      rw [classify, classify, hi, hm.noMatch more hi]
      exact congrArg Verdict.later (ih (fun m' hm' => h m' (List.mem_cons_of_mem _ hm')) hrest)

/-- Who comes before the winner has said no. -/
theorem noMatch_of_classify (hdata : classify matchers data = .matched index) {earlier : Nat}
    (hlt : earlier < index) {m : Matcher} (hm : matchers[earlier]? = some m) :
    m.inspect data = .noMatch := by
  induction matchers generalizing earlier index with
  | nil => simp at hm
  | cons first rest ih =>
    rw [classify] at hdata
    cases hi : first.inspect data with
    | matched =>
      obtain rfl : 0 = index := by simpa [hi] using hdata
      omega
    | needMore => simp [hi] at hdata
    | noMatch =>
      obtain ⟨i, hrest, rfl⟩ : ∃ i, classify rest data = .matched i ∧ index = i + 1 := by
        simpa [hi, Verdict.later_eq_matched_iff] using hdata
      cases earlier with
      | zero =>
        obtain rfl : first = m := by simpa using hm
        exact hi
      | succ earlier => exact ih hrest (Nat.lt_of_succ_lt_succ hlt) (by simpa using hm)

/-- Who comes before the winner matches no start of a connection that starts with these bytes,
neither a longer nor a shorter one. -/
theorem not_matched_of_classify (h : ∀ m ∈ matchers, m.Persistent)
    (hdata : classify matchers data = .matched index) {earlier : Nat} (hlt : earlier < index)
    {m : Matcher} (hm : matchers[earlier]? = some m) {rest seen : Bytes}
    (hseen : seen <+: data ++ rest) : m.inspect seen ≠ .matched := by
  have hpers := h m (List.mem_of_getElem? hm)
  have hno := noMatch_of_classify hdata hlt hm
  intro hyes
  rcases List.prefix_or_prefix_of_prefix hseen (List.prefix_append data rest) with hle | hle
  · obtain ⟨more, rfl⟩ := hle
    simp [hpers.matched more hyes] at hno
  · obtain ⟨more, rfl⟩ := hle
    simp [hpers.noMatch more hno] at hyes

end ProtocolGateway

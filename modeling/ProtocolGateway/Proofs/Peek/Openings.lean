import Mathlib.Data.List.Pairwise
import ProtocolGateway.Proofs.Peek.Reasons
import ProtocolGateway.Settings.Problem

/-!
# Openings that exclude each other

A protocol is recognised by how its connections open. If no opening starts another one, then data
that start with an opening start with no other, and data that are the beginning of an opening start
with none. So the verdict on data can be read off the openings alone, and the order of the matchers
does not matter.

The openings of the gateway are of this kind, although some begin with the same letters. The longest
of them is the preface of HTTP/2; who may read as much as that is never left undecided by a full
buffer, and who may not is left so by that preface.

## Main definitions

* `Matcher.PrefixFree`: no opening starts another one.
* `Matcher.ofGroups`: one matcher for each group of openings.

## Main results

* `Matcher.classify_eq_matched_iff`, `Matcher.classify_eq_incomplete_iff`,
  `Matcher.classify_eq_rejected_iff`: the verdict of matchers whose openings exclude each other.
* `Peek.registered_exact`: the verdict of the matchers of the gateway, and the bound on what is read
  for it.
-/

namespace ProtocolGateway

namespace Matcher

/-- No opening starts another one, and none occurs twice. -/
def PrefixFree (openings : List Bytes) : Prop := openings.Pairwise fun a b => ¬a <+: b ∧ ¬b <+: a

/-- One matcher for each group of openings. -/
def ofGroups (groups : List (String × List Bytes)) : List Matcher :=
  groups.map fun g => ⟨g.1, inspectOpenings g.2⟩

/-- The openings of all groups. -/
def openingsOf (groups : List (String × List Bytes)) : List Bytes := groups.flatMap (·.2)

variable {openings others : List Bytes} {groups : List (String × List Bytes)} {data o : Bytes}
variable {m : Matcher} {ms : List Matcher} {i : Nat}

/-! ### One matcher -/

theorem PrefixFree.eq_of_prefix (h : PrefixFree openings) {a b : Bytes} (ha : a ∈ openings)
    (hb : b ∈ openings) (hpre : a <+: b) : a = b := by
  have hsymm : Std.Symm fun a b : Bytes => ¬a <+: b ∧ ¬b <+: a := ⟨fun _ _ hab => hab.symm⟩
  by_contra hne
  exact (List.Pairwise.forall h ha hb hne).1 hpre

theorem prefixFree_append_iff : PrefixFree (openings ++ others) ↔
    PrefixFree openings ∧ PrefixFree others ∧
      ∀ a ∈ openings, ∀ b ∈ others, ¬a <+: b ∧ ¬b <+: a :=
  List.pairwise_append

/-- More bytes are needed of the beginning of an opening. -/
theorem inspectOpenings_eq_needMore_iff (h : PrefixFree openings) :
    inspectOpenings openings data = .needMore ↔ ∃ o ∈ openings, data <+: o ∧ data ≠ o := by
  constructor
  · intro hmore
    have hyes : ∀ o ∈ openings, ¬o <+: data := fun o ho hstart => by
      simp [inspectOpenings_eq_matched_iff.2 ⟨o, ho, hstart⟩] at hmore
    by_contra hnone
    have hno : inspectOpenings openings data = .noMatch := by
      refine inspectOpenings_eq_noMatch_iff.2 fun o ho => ⟨hyes o ho, fun hpre => ?_⟩
      refine hnone ⟨o, ho, hpre, ?_⟩
      rintro rfl
      exact hyes data ho (List.prefix_refl data)
    simp [hno] at hmore
  · rintro ⟨o, ho, hpre, hne⟩
    cases hinspect : inspectOpenings openings data with
    | needMore => rfl
    | noMatch => exact absurd hpre (inspectOpenings_eq_noMatch_iff.1 hinspect o ho).2
    | matched =>
      obtain ⟨a, ha, hstart⟩ := inspectOpenings_eq_matched_iff.1 hinspect
      obtain rfl := h.eq_of_prefix ha ho (hstart.trans hpre)
      exact absurd (hpre.eq_of_length_le hstart.length_le) hne

/-- Data that start with an opening, or are the beginning of one, are refused for all openings that
exclude that one. -/
theorem inspectOpenings_eq_noMatch_of_start
    (h : ∀ a ∈ openings, ¬a <+: o ∧ ¬o <+: a) (hstart : o <+: data) :
    inspectOpenings openings data = .noMatch := by
  refine inspectOpenings_eq_noMatch_iff.2 fun a ha => ⟨fun hpre => ?_, fun hpre => ?_⟩
  · rcases List.prefix_or_prefix_of_prefix hpre hstart with hao | hoa
    · exact (h a ha).1 hao
    · exact (h a ha).2 hoa
  · exact (h a ha).2 (hstart.trans hpre)

theorem inspectOpenings_ne_matched_of_beginning
    (h : ∀ a ∈ openings, ¬a <+: o ∧ ¬o <+: a) (hpre : data <+: o) :
    inspectOpenings openings data ≠ .matched := by
  intro hmatched
  obtain ⟨a, ha, hstart⟩ := inspectOpenings_eq_matched_iff.1 hmatched
  exact (h a ha).1 (hstart.trans hpre)

/-! ### A list of matchers -/

theorem classify_cons_eq_matched_zero_iff :
    classify (m :: ms) data = .matched 0 ↔ m.inspect data = .matched := by
  rw [classify]
  cases m.inspect data with
  | matched => simp
  | needMore => simp
  | noMatch => simp [Verdict.later_eq_matched_iff]

theorem classify_cons_eq_matched_succ_iff :
    classify (m :: ms) data = .matched (i + 1) ↔
      m.inspect data = .noMatch ∧ classify ms data = .matched i := by
  rw [classify]
  cases m.inspect data with
  | matched => simp
  | needMore => simp
  | noMatch => simp [Verdict.later_eq_matched_iff]

theorem classify_cons_eq_incomplete_iff :
    classify (m :: ms) data = .incomplete ↔
      m.inspect data = .needMore ∨ m.inspect data = .noMatch ∧ classify ms data = .incomplete := by
  rw [classify]
  cases m.inspect data with
  | matched => simp
  | needMore => simp
  | noMatch => simp [Verdict.later_eq_incomplete_iff]

theorem classify_cons_eq_rejected_iff :
    classify (m :: ms) data = .rejected ↔
      m.inspect data = .noMatch ∧ classify ms data = .rejected := by
  rw [classify]
  cases m.inspect data with
  | matched => simp
  | needMore => simp
  | noMatch => cases classify ms data <;> simp [Verdict.later]

/-- **Who wins** is who has an opening with which the data start. -/
theorem classify_eq_matched_iff (h : PrefixFree (openingsOf groups)) :
    classify (ofGroups groups) data = .matched i ↔
      ∃ g, groups[i]? = some g ∧ ∃ o ∈ g.2, o <+: data := by
  induction groups generalizing i with
  | nil => simp [ofGroups, classify]
  | cons g groups ih =>
    obtain ⟨-, hrest, hcross⟩ := prefixFree_append_iff.1 h
    cases i with
    | zero =>
      refine classify_cons_eq_matched_zero_iff.trans ?_
      simpa using inspectOpenings_eq_matched_iff
    | succ i =>
      refine classify_cons_eq_matched_succ_iff.trans ?_
      rw [List.getElem?_cons_succ, ← ih hrest]
      refine ⟨And.right, fun hwin => ⟨?_, hwin⟩⟩
      -- The first group is asked before the winner, and must not keep the data waiting.
      obtain ⟨g', hg', o, ho, hstart⟩ := (ih hrest).1 hwin
      have hmem : o ∈ openingsOf groups :=
        List.mem_flatMap.2 ⟨g', List.mem_of_getElem? hg', ho⟩
      exact inspectOpenings_eq_noMatch_of_start (fun a ha => hcross a ha o hmem) hstart

/-- **Nothing is decided** on the beginnings of openings. -/
theorem classify_eq_incomplete_iff (h : PrefixFree (openingsOf groups)) :
    classify (ofGroups groups) data = .incomplete ↔
      ∃ o ∈ openingsOf groups, data <+: o ∧ data ≠ o := by
  induction groups with
  | nil => simp [ofGroups, openingsOf, classify]
  | cons g groups ih =>
    obtain ⟨hfirst, hrest, hcross⟩ := prefixFree_append_iff.1 h
    refine classify_cons_eq_incomplete_iff.trans ?_
    rw [← ofGroups, ih hrest]
    show inspectOpenings g.2 data = .needMore ∨ inspectOpenings g.2 data = .noMatch ∧ _ ↔
      ∃ o ∈ g.2 ++ openingsOf groups, data <+: o ∧ data ≠ o
    constructor
    · rintro (hmore | ⟨-, o, ho, hpre⟩)
      · obtain ⟨o, ho, hpre⟩ := (inspectOpenings_eq_needMore_iff hfirst).1 hmore
        exact ⟨o, List.mem_append_left _ ho, hpre⟩
      · exact ⟨o, List.mem_append_right _ ho, hpre⟩
    · rintro ⟨o, ho, hpre, hne⟩
      rcases List.mem_append.1 ho with ho | ho
      · exact .inl ((inspectOpenings_eq_needMore_iff hfirst).2 ⟨o, ho, hpre, hne⟩)
      · have hyes := inspectOpenings_ne_matched_of_beginning (fun a ha => hcross a ha o ho) hpre
        cases hinspect : inspectOpenings g.2 data with
        | matched => exact absurd hinspect hyes
        | needMore => exact .inl rfl
        | noMatch => exact .inr ⟨rfl, o, ho, hpre, hne⟩

/-- **All is refused** that neither starts with an opening nor is the beginning of one. -/
theorem classify_eq_rejected_iff :
    classify (ofGroups groups) data = .rejected ↔
      ∀ o ∈ openingsOf groups, ¬o <+: data ∧ ¬data <+: o := by
  induction groups with
  | nil => simp [ofGroups, openingsOf, classify]
  | cons g groups ih =>
    refine classify_cons_eq_rejected_iff.trans ?_
    rw [← ofGroups, ih]
    show inspectOpenings g.2 data = .noMatch ∧ _ ↔ ∀ o ∈ g.2 ++ openingsOf groups, _
    rw [inspectOpenings_eq_noMatch_iff, List.forall_mem_append]

/-! ### The matchers of the gateway -/

/-- The openings of each protocol of the gateway. -/
def protocols : List (String × List Bytes) :=
  [("http1", http1Openings), ("http2", [http2Preface])]

theorem registered_eq_ofGroups : registered = ofGroups protocols := rfl

theorem prefixFree_protocols : PrefixFree (openingsOf protocols) := by
  rw [PrefixFree]
  decide +kernel

theorem prefixFree_protocols_reverse : PrefixFree (openingsOf protocols.reverse) := by
  rw [PrefixFree]
  decide +kernel

theorem length_le_of_mem_openingsOf (h : o ∈ openingsOf protocols) :
    o.length ≤ http2Preface.length := by
  revert o
  decide +kernel

end Matcher

/-- The verdict if two matchers change their places. -/
def Verdict.exchanged : Verdict → Verdict
  | .matched index => .matched (1 - index)
  | v => v

section classify

open Matcher

variable {data : Bytes}

theorem mem_openingsOf_reverse {o : Bytes} :
    o ∈ openingsOf protocols.reverse ↔ o ∈ openingsOf protocols := by
  simp only [openingsOf, List.mem_flatMap, List.mem_reverse]

/-- The order of the matchers does not matter. -/
theorem classify_registered_reverse :
    classify registered.reverse data = (classify registered data).exchanged := by
  show classify (ofGroups protocols.reverse) data = _
  rw [registered_eq_ofGroups]
  cases hverdict : classify (ofGroups protocols) data with
  | matched i =>
    obtain ⟨g, hg, hopen⟩ := (classify_eq_matched_iff prefixFree_protocols).1 hverdict
    refine (classify_eq_matched_iff prefixFree_protocols_reverse).2 ⟨g, ?_, hopen⟩
    match i, hg with
    | 0, hg => exact hg
    | 1, hg => exact hg
  | incomplete =>
    obtain ⟨o, ho, hpre⟩ := (classify_eq_incomplete_iff prefixFree_protocols).1 hverdict
    exact (classify_eq_incomplete_iff prefixFree_protocols_reverse).2
      ⟨o, mem_openingsOf_reverse.2 ho, hpre⟩
  | rejected =>
    have hno := classify_eq_rejected_iff.1 hverdict
    exact classify_eq_rejected_iff.2 fun o ho => hno o (mem_openingsOf_reverse.1 ho)

theorem lt_of_classify_eq_incomplete (h : classify registered data = .incomplete) :
    data.length < prefaceSize := by
  obtain ⟨o, ho, hpre, hne⟩ := (classify_eq_incomplete_iff prefixFree_protocols).1 h
  have hlong : o.length ≤ prefaceSize := length_le_of_mem_openingsOf ho
  have hle := hpre.length_le
  have hlt : data.length ≠ o.length := fun heq => hne (hpre.eq_of_length heq)
  omega

end classify

namespace Peek

open Matcher

variable {limit : Nat} {ending : Ending} {choices : List Nat} {bytes more : Bytes}

/-- Who may read as much as the preface is never left undecided by a full buffer. -/
theorem outcome_ne_bufferFull (hlimit : prefaceSize ≤ limit) :
    (read registered limit ending choices [] bytes).outcome ≠ .dropped .bufferFull := by
  intro hfull
  obtain ⟨hlong, hverdict⟩ : Applies registered limit ending bytes (.dropped .bufferFull) :=
    (applies_iff (fun _ => persistent_of_mem_registered) choices).2 hfull.symm
  have hlt := lt_of_classify_eq_incomplete hverdict
  rw [List.length_take_of_le hlong] at hlt
  omega

/-- Who may not is left so by the preface. -/
theorem outcome_eq_bufferFull (hlimit : limit < prefaceSize) :
    (read registered limit ending choices [] (http2Preface ++ more)).outcome =
      .dropped .bufferFull := by
  have hle : limit ≤ http2Preface.length := Nat.le_of_lt hlimit
  have htake : (http2Preface ++ more).take limit = http2Preface.take limit :=
    List.take_append_of_le_length hle
  have hne : http2Preface.take limit ≠ http2Preface := by
    intro heq
    have hlength := congrArg List.length heq
    rw [List.length_take_of_le hle] at hlength
    exact Nat.ne_of_lt hlimit hlength
  have happlies :
      Applies registered limit ending (http2Preface ++ more) (.dropped .bufferFull) := by
    constructor
    · rw [List.length_append]
      omega
    · rw [htake]
      exact (classify_eq_incomplete_iff prefixFree_protocols).2
        ⟨http2Preface, by simp [openingsOf, protocols], List.take_prefix .., hne⟩
  exact ((applies_iff (fun _ => persistent_of_mem_registered) choices).1 happlies).symm

/-- **The verdict of the matchers of the gateway** can be read off the ten openings, in whatever
order the two matchers are asked. **The bound on what is read** for it is the one that settings are
checked against: from it on no client is dropped because of a full buffer, and below it one is who
sends the preface. -/
theorem registered_exact [Log.Patterns] :
    (∀ data : Bytes,
      (classify registered data = .matched 0 ↔ ∃ o ∈ http1Openings, o <+: data) ∧
      (classify registered data = .matched 1 ↔ http2Preface <+: data) ∧
      (classify registered data = .incomplete ↔
        ∃ o ∈ http1Openings ++ [http2Preface], data <+: o ∧ data ≠ o) ∧
      (classify registered data = .rejected ↔
        ∀ o ∈ http1Openings ++ [http2Preface], ¬o <+: data ∧ ¬data <+: o) ∧
      classify registered.reverse data = (classify registered data).exchanged) ∧
    (∀ s : Settings, s.fault? .peekBuffer = none ↔ 24 ≤ s.listener.peekBufferBytes) ∧
    (∀ limit ending choices bytes, 24 ≤ limit →
      (read registered limit ending choices [] bytes).outcome ≠ .dropped .bufferFull) ∧
    ∀ limit ending choices more, limit < 24 →
      (read registered limit ending choices [] (http2Preface ++ more)).outcome =
        .dropped .bufferFull := by
  have hopenings : openingsOf protocols = http1Openings ++ [http2Preface] := rfl
  refine ⟨fun data => ⟨?_, ?_, ?_, ?_, classify_registered_reverse⟩, fun s => ?_, ?_, ?_⟩
  · rw [registered_eq_ofGroups, classify_eq_matched_iff prefixFree_protocols]
    simp [protocols]
  · rw [registered_eq_ofGroups, classify_eq_matched_iff prefixFree_protocols]
    simp [protocols]
  · rw [registered_eq_ofGroups, classify_eq_incomplete_iff prefixFree_protocols, hopenings]
  · rw [registered_eq_ofGroups, classify_eq_rejected_iff, hopenings]
  · rw [Settings.fault?, prefaceSize]
    split <;> simp <;> omega
  · intro limit ending choices bytes hlimit
    exact outcome_ne_bufferFull hlimit
  · intro limit ending choices more hlimit
    exact outcome_eq_bufferFull hlimit

/-- With one byte less than the preface takes its client is dropped, and with that byte not. -/
theorem registered_exact_preface :
    (read registered 23 .silent [1, 2] [] (http2Preface ++ [])).outcome = .dropped .bufferFull ∧
      (read registered 24 .silent [1, 2] [] (http2Preface ++ [])).outcome ≠
        .dropped .bufferFull := by
  obtain ⟨-, -, hfits, hfull⟩ := registered_exact
  exact ⟨hfull 23 .silent [1, 2] [] (by decide), hfits 24 .silent [1, 2] _ (by decide)⟩

end Peek

end ProtocolGateway

import Mathlib.Data.List.TakeWhile
import ProtocolGateway.Uri.Below

/-!
# What is left of a URI that was read

A URI below a path is put together again from its parts, which could fail. It does not fail for a
URI that was read as one: what is left of its path consists of the same characters, its query is
the same, and a lone authority has no path that could lie below another one.

## Main definitions

* `UriTarget.WellFormed`, `Uri.WellFormed`: what is known of what was read.

## Main results

* `UriTarget.parse_render`: a well-formed target is read back.
* `Uri.wellFormed_of_parse`: what was read is well-formed.
* `Uri.below?_eq_map`: what is left of a URI is what is left of its path, with the same query.
-/

namespace ProtocolGateway

/-! ### Paths -/

section pathBelow

variable {above path rest : List Char}

/-- A path lies below another one if it is that one, or goes on after it with a slash. -/
theorem pathBelow?_eq_some_iff :
    pathBelow? above path = some rest ↔
      path = above ∧ rest = ['/'] ∨ ∃ tail, path = above ++ '/' :: tail ∧ rest = '/' :: tail := by
  rw [pathBelow?]
  cases hdrop : Text.dropStart? above path with
  | none =>
    have hno : ∀ tail, path ≠ above ++ tail := fun tail h => by
      simp [Text.dropStart?_eq_some_iff.2 h] at hdrop
    refine iff_of_false (by simp) ?_
    rintro (⟨h, -⟩ | ⟨tail, h, -⟩)
    · exact hno [] (by simpa using h)
    · exact hno _ h
  | some left =>
    obtain rfl := Text.dropStart?_eq_some_iff.1 hdrop
    cases left with
    | nil => simp [eq_comm]
    | cons c left =>
      by_cases hc : c = '/'
      · simp [hc, eq_comm]
      · simp [hc]

theorem isSome_pathBelow?_iff :
    (pathBelow? above path).isSome ↔ path = above ∨ above ++ ['/'] <+: path := by
  rw [Option.isSome_iff_exists]
  constructor
  · rintro ⟨rest, h⟩
    rcases pathBelow?_eq_some_iff.1 h with ⟨rfl, -⟩ | ⟨tail, rfl, -⟩
    · exact .inl rfl
    · exact .inr ⟨tail, by simp⟩
  · rintro (rfl | ⟨tail, rfl⟩)
    · exact ⟨_, pathBelow?_eq_some_iff.2 (.inl ⟨rfl, rfl⟩)⟩
    · exact ⟨_, pathBelow?_eq_some_iff.2 (.inr ⟨tail, by simp, rfl⟩)⟩

/-- What is left of a path has no other characters. -/
theorem mem_of_pathBelow? (h : pathBelow? above path = some rest) {c : Char} (hc : c ∈ rest) :
    c = '/' ∨ c ∈ path := by
  rcases pathBelow?_eq_some_iff.1 h with ⟨-, rfl⟩ | ⟨tail, rfl, rfl⟩
  · exact .inl (by simpa using hc)
  · exact .inr (List.mem_append_right _ hc)

theorem pathBelow?_nil (habove : above ≠ []) : pathBelow? above [] = none := by
  cases above with
  | nil => exact absurd rfl habove
  | cons c above => rfl

end pathBelow

/-! ### Targets -/

namespace UriTarget

/-- Path and query consist of characters that may stand there. -/
structure WellFormed (t : UriTarget) : Prop where
  path : ∀ c ∈ t.path, isPathChar c = true
  query : ∀ query, t.query = some query → ∀ c ∈ query, isQueryChar c = true

theorem not_endsPath_of_isPathChar {c : Char} (h : isPathChar c = true) : (!endsPath c) = true := by
  rw [Bool.not_eq_true', endsPath, Bool.or_eq_false_iff, beq_eq_false_iff_ne, beq_eq_false_iff_ne]
  constructor
  · rintro rfl
    exact absurd h (by decide)
  · rintro rfl
    exact absurd h (by decide)

theorem ne_hash_of_isQueryChar {c : Char} (h : isQueryChar c = true) : (c != '#') = true := by
  rw [bne_iff_ne]
  rintro rfl
  exact absurd h (by decide)

theorem wellFormed_of_parse {text : List Char} {t : UriTarget} (h : parse text = .ok t) :
    t.WellFormed := by
  rw [parse] at h
  split at h
  · simp at h
  · next hpath =>
    have hpath : ∀ c ∈ text.takeWhile (!endsPath ·), isPathChar c = true := by
      simpa using hpath
    split at h
    · next rest _ =>
      dsimp only at h
      split at h
      · next hquery =>
        obtain rfl := Except.ok.inj h
        refine ⟨hpath, fun query heq c hc => ?_⟩
        obtain rfl := Option.some.inj heq
        exact List.all_eq_true.1 hquery c hc
      · simp at h
    · obtain rfl := Except.ok.inj h
      exact ⟨hpath, fun query heq => by simp at heq⟩

/-- **A well-formed target is read back.** -/
theorem parse_render {t : UriTarget} (h : t.WellFormed) : parse t.render = .ok t := by
  obtain ⟨path, query⟩ := t
  have hpath : ∀ c ∈ path, (!endsPath c) = true := fun c hc =>
    not_endsPath_of_isPathChar (h.path c hc)
  have hall : path.all isPathChar = true := List.all_eq_true.2 h.path
  cases query with
  | none =>
    have htake : path.takeWhile (!endsPath ·) = path := List.takeWhile_eq_self_iff.2 hpath
    have hdrop : path.dropWhile (!endsPath ·) = [] := List.dropWhile_eq_nil_iff.2 hpath
    simp [parse, render, htake, hdrop, hall]
  | some query =>
    have hquery : ∀ c ∈ query, (c != '#') = true := fun c hc =>
      ne_hash_of_isQueryChar (h.query query rfl c hc)
    have hallq : query.all isQueryChar = true := List.all_eq_true.2 (h.query query rfl)
    have hend : (!endsPath '?') = false := by decide
    have htake : (path ++ '?' :: query).takeWhile (!endsPath ·) = path := by
      rw [List.takeWhile_append_of_pos hpath, List.takeWhile_cons_of_neg (by simp [hend]),
        List.append_nil]
    have hdrop : (path ++ '?' :: query).dropWhile (!endsPath ·) = '?' :: query := by
      rw [List.dropWhile_append_of_pos hpath, List.dropWhile_cons_of_neg (by simp [hend])]
    have htakeq : query.takeWhile (· != '#') = query := List.takeWhile_eq_self_iff.2 hquery
    simp [parse, render, htake, hdrop, hall, htakeq, hallq]

end UriTarget

/-! ### URIs -/

namespace Uri

/-- What is known of a URI that was read. -/
structure WellFormed (u : Uri) : Prop where
  target : u.target.WellFormed
  /-- An authority without a scheme stands alone. -/
  path_of_authority : u.scheme = none → u.authority.isSome = true → u.path = []

theorem wellFormed_ofTarget {target : UriTarget} (h : target.WellFormed) :
    (ofTarget target).WellFormed :=
  ⟨h, fun _ hauth => by simp [ofTarget] at hauth⟩

theorem wellFormed_of_parseFull {text : List Char} {u : Uri} (h : parseFull text = .ok u) :
    u.WellFormed := by
  rw [parseFull] at h
  cases hscheme : takeScheme text with
  | error e => simp [hscheme, bind, Except.bind] at h
  | ok s =>
    obtain ⟨scheme, afterScheme⟩ := s
    cases hauth : takeAuthority afterScheme with
    | error e => simp [hscheme, hauth, bind, Except.bind] at h
    | ok a =>
      obtain ⟨authority, rest⟩ := a
      simp only [hscheme, hauth, bind, Except.bind] at h
      cases scheme with
      | none =>
        simp only [Option.isNone_none, if_true] at h
        split at h
        · obtain rfl := Except.ok.inj h
          exact ⟨⟨by simp, by simp⟩, fun _ _ => rfl⟩
        · simp [throw, throwThe, MonadExceptOf.throw] at h
      | some scheme =>
        simp only [Option.isNone_some, Bool.false_eq_true, if_false] at h
        split at h
        · simp [throw, throwThe, MonadExceptOf.throw] at h
        · cases htarget : UriTarget.parse rest with
          | error e => simp [htarget] at h
          | ok target =>
            simp only [htarget] at h
            obtain rfl := Except.ok.inj h
            exact ⟨UriTarget.wellFormed_of_parse htarget, fun hnone => by simp at hnone⟩

/-- **What was read is well-formed.** -/
theorem wellFormed_of_parse {text : List Char} {u : Uri} (h : parse text = .ok u) :
    u.WellFormed := by
  unfold parse at h
  split at h
  · simp at h
  · split at h
    · simp at h
    · obtain rfl := Except.ok.inj h
      exact wellFormed_ofTarget ⟨List.forall_mem_singleton.2 (by decide), by simp⟩
    · next tail _ =>
      cases htarget : UriTarget.parse ('/' :: tail) with
      | error e => simp [htarget, Except.map] at h
      | ok target =>
        obtain rfl : ofTarget target = u := by simpa [htarget, Except.map] using h
        exact wellFormed_ofTarget (UriTarget.wellFormed_of_parse htarget)
    · exact wellFormed_of_parseFull h

theorem path_chars {u : Uri} (hu : u.WellFormed) : ∀ c ∈ u.path, UriTarget.isPathChar c = true := by
  rw [path]
  split
  · exact hu.target.path
  · split
    · exact List.forall_mem_singleton.2 (by decide)
    · simp

/-- **What is left of a URI** is what is left of its path, with the same query. -/
theorem below?_eq_map {above : List Char} (habove : above ≠ []) {u : Uri} (hu : u.WellFormed) :
    u.below? above =
      (pathBelow? above u.path).map fun path => { u with target := ⟨path, u.query⟩ } := by
  rw [below?]
  cases hpath : pathBelow? above u.path with
  | none => rfl
  | some path =>
    have hchars : ∀ c ∈ path, UriTarget.isPathChar c = true := by
      intro c hc
      rcases mem_of_pathBelow? hpath hc with rfl | hmem
      · decide
      · exact path_chars hu c hmem
    have htarget : UriTarget.WellFormed ⟨path, u.query⟩ := ⟨hchars, hu.target.query⟩
    have hfits : ¬(u.scheme.isNone && u.authority.isSome) = true := by
      intro hlone
      rw [Bool.and_eq_true, Option.isNone_iff_eq_none] at hlone
      rw [hu.path_of_authority hlone.1 hlone.2, pathBelow?_nil habove] at hpath
      simp at hpath
    rw [Option.bind_some, withPath?, UriTarget.parse_render htarget, Option.map_some]
    exact if_neg hfits

end Uri

end ProtocolGateway

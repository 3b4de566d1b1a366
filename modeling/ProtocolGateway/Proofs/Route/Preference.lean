import ProtocolGateway.Proofs.Route.Literal

/-!
# Patterns beside a literal text

A path that starts with a text without braces may have the form of several patterns. Of these, one
that starts with the text itself goes before all that do not; and no pattern clashes with it that
does not start with the text as well. So what stands beside a reserved path in a table can be read
off the texts of the patterns.

## Main definitions

* `Pattern.Fits`: a pattern that can stand beside another one in a table.

## Main results

* `Token.literals_or_preferred`: a pattern that a path has the form of starts with the text, or
  gives way to one that does.
* `Token.exists_of_clash_literals`: what clashes with a pattern that starts with the text.
* `Pattern.exists_text_of_tokens`: a pattern whose pieces start with the text is written so.
* `Table.find?_of_preferred`: the route of a path that no other route goes before.
* `Table.foldlM_insert_of_fits`: routes that clash with no others become the last ones.
-/

namespace ProtocolGateway

/-! ### Pieces -/

namespace Token

variable {text path : List Char} {p q : List (Token Char)}

theorem preferred_append (text : List Char) (p q : List (Token Char)) :
    preferred (text.map .literal ++ p) (text.map .literal ++ q) = preferred p q := by
  induction text with
  | nil => rfl
  | cons c text ih =>
    rw [List.map_cons, List.cons_append, List.cons_append, preferred, ih]
    simp

/-- Of two patterns one at most goes before the other. -/
theorem preferred_asymm (h : preferred p q = true) : preferred q p = false := by
  fun_induction preferred p q with
  | case1 a p b q ih =>
    obtain ⟨hab, hpq⟩ : a = b ∧ preferred p q = true := by simpa using h
    rw [preferred, ih hpq, Bool.and_false]
  | case2 a p t q hne =>
    cases t with
    | literal b => exact absurd rfl (hne b)
    | segment => rfl
    | rest => rfl
  | case3 n p m q ih => exact ih h
  | case4 => exact absurd h Bool.false_ne_true

/-- Only an empty pattern is the form of an empty path. -/
theorem eq_nil_of_matchesPath_nil (h : matchesPath p [] = true) : p = [] := by
  cases p with
  | nil => rfl
  | cons t p => cases t <;> exact absurd h Bool.false_ne_true

/-- **A pattern that a path has the form of** starts with a text that the path starts with, or gives
way to all patterns that do. -/
theorem literals_or_preferred (h : matchesPath q (text ++ path) = true) :
    (∃ more, q = text.map .literal ++ more ∧ matchesPath more path = true) ∨
      ∀ p, preferred (text.map .literal ++ p) q = true := by
  -- The first piece that is no literal gives way to the literal of the text at its place; a literal
  -- there is that of the text, since the path has both.
  induction text generalizing q with
  | nil => exact .inl ⟨q, rfl, h⟩
  | cons c text ih =>
    cases q with
    | nil => exact absurd h Bool.false_ne_true
    | cons t q =>
      cases t with
      | literal d =>
        obtain ⟨rfl, hrest⟩ : d = c ∧ matchesPath q (text ++ path) = true := by
          simpa [matchesPath] using h
        rcases ih hrest with ⟨more, rfl, hmore⟩ | hpreferred
        · exact .inl ⟨more, rfl, hmore⟩
        · refine .inr fun p => ?_
          rw [List.map_cons, List.cons_append, preferred, hpreferred p]
          simp
      | segment name => exact .inr fun p => rfl
      | rest name => exact .inr fun p => rfl

/-- What clashes with a pattern that starts with a text starts with it as well, and clashes after
it. -/
theorem exists_of_clash_literals (h : clash (text.map .literal ++ p) q = true) :
    ∃ more, q = text.map .literal ++ more ∧ clash p more = true := by
  induction text generalizing q with
  | nil => exact ⟨q, rfl, h⟩
  | cons c text ih =>
    cases q with
    | nil => exact absurd h Bool.false_ne_true
    | cons t q =>
      cases t with
      | literal d =>
        obtain ⟨rfl, hclash⟩ : c = d ∧ clash (text.map .literal ++ p) q = true := by
          simpa [clash] using h
        obtain ⟨more, rfl, hmore⟩ := ih hclash
        exact ⟨more, rfl, hmore⟩
      | segment name => exact absurd h Bool.false_ne_true
      | rest name => exact absurd h Bool.false_ne_true

/-- Clashing goes both ways. -/
theorem clash_comm (p q : List (Token Char)) : clash p q = clash q p := by
  induction p generalizing q with
  | nil =>
    cases q with
    | nil => rfl
    | cons t q => cases t <;> rfl
  | cons s p ih =>
    cases q with
    | nil => cases s <;> rfl
    | cons t q =>
      cases s with
      | literal a =>
        cases t with
        | literal b => rw [clash, clash, ih, decide_eq_decide.2 (eq_comm (a := a) (b := b))]
        | segment => rfl
        | rest => rfl
      | segment name =>
        cases t with
        | literal => rfl
        | segment => exact ih q
        | rest => rfl
      | rest name => cases t <;> rfl

theorem clash_nil_iff : clash [] q = true ↔ q = [] := by
  cases q <;> simp [clash]

end Token

/-! ### Patterns -/

namespace Pattern

variable {text tail : List Char} {tokens more : List (Token Char)}

/-- What is read of a name becomes a piece that is no literal. -/
theorem exists_of_readTokens_some {name : List Char} {marked : List (Char × Bool)}
    (h : readTokens (some name) marked = some tokens) :
    ∃ first rest, tokens = first :: rest ∧ ∀ c, first ≠ .literal c := by
  induction marked generalizing name with
  | nil => cases h
  | cons next more ih =>
    obtain ⟨d, mark⟩ := next
    cases name with
    | nil =>
      rw [readTokens] at h
      split at h
      · cases h
      · exact ih h
    | cons first name =>
      rw [readTokens] at h
      split at h
      · split at h
        · split at h
          · cases h
          · cases h
            exact ⟨.rest name, [], rfl, fun _ h => by cases h⟩
        · split at h
          · obtain ⟨rest, -, rfl⟩ := Option.map_eq_some_iff.1 h
            exact ⟨.segment (first :: name), rest, rfl, fun _ h => by cases h⟩
          · cases h
      · split at h
        · cases h
        · exact ih h

/-- The first piece of a text is its first character, or starts with a brace. -/
theorem readTokens_unescape_cons {c : Char} {rest : List Char}
    (h : readTokens none (unescape (c :: rest)) = some tokens) :
    (∃ more, tokens = .literal c :: more ∧
      (c ≠ '\x7b' ∧ c ≠ '\x7d' → readTokens none (unescape rest) = some more)) ∨
    ∃ first more, tokens = first :: more ∧ ∀ c, first ≠ .literal c := by
  obtain ⟨mark, marked, hmarked, hplain⟩ : ∃ mark marked,
      unescape (c :: rest) = (c, mark) :: marked ∧
        (c ≠ '\x7b' ∧ c ≠ '\x7d' → marked = unescape rest) := by
    by_cases hc : c ≠ '\x7b' ∧ c ≠ '\x7d'
    · exact ⟨false, _, unescape_cons hc rest, fun _ => rfl⟩
    · cases rest with
      | nil => exact ⟨false, [], rfl, fun h => absurd h hc⟩
      | cons d rest =>
        rw [unescape]
        split
        · exact ⟨true, _, rfl, fun h => absurd h hc⟩
        · exact ⟨false, _, rfl, fun h => absurd h hc⟩
  rw [hmarked, readTokens] at h
  split at h
  · cases h
  · split at h
    · exact .inr (exists_of_readTokens_some h)
    · obtain ⟨more, hmore, rfl⟩ := Option.map_eq_some_iff.1 h
      exact .inl ⟨more, rfl, fun hc => hplain hc ▸ hmore⟩

/-- Only an empty text has no pieces. -/
theorem eq_nil_of_readTokens (h : readTokens none (unescape text) = some []) : text = [] := by
  cases text with
  | nil => rfl
  | cons c rest =>
    rcases readTokens_unescape_cons h with ⟨_, hmore, -⟩ | ⟨_, _, hmore, -⟩ <;> cases hmore

/-- A literal piece without a brace at the beginning was written as it is. -/
theorem exists_of_readTokens_literal {c : Char} (hc : c ≠ '\x7b' ∧ c ≠ '\x7d')
    (h : readTokens none (unescape text) = some (.literal c :: tokens)) :
    ∃ rest, text = c :: rest ∧ readTokens none (unescape rest) = some tokens := by
  cases text with
  | nil => cases h
  | cons d rest =>
    rcases readTokens_unescape_cons h with ⟨more, heq, hmore⟩ | ⟨first, more, heq, hno⟩
    · obtain ⟨rfl, rfl⟩ : c = d ∧ tokens = more := by simpa using heq
      exact ⟨rest, rfl, hmore hc⟩
    · exact absurd (List.cons.inj heq).1.symm (hno c)

/-- A pattern whose pieces start with a text without braces is written so. -/
theorem exists_text_of_tokens (hplain : IsPlain text) {p : Pattern}
    (h : p.tokens = text.map .literal ++ more) :
    ∃ tail, p.text = text ++ tail ∧ readTokens none (unescape tail) = some more := by
  have hread := readTokens_of_tokens? p.tokens_eq
  rw [h] at hread
  clear h
  generalize p.text = written at hread
  induction text generalizing written with
  | nil => exact ⟨written, rfl, hread⟩
  | cons c text ih =>
    obtain ⟨hc, htext⟩ := List.forall_mem_cons.1 hplain
    obtain ⟨rest, rfl, hrest⟩ := exists_of_readTokens_literal hc hread
    obtain ⟨tail, rfl, htail⟩ := ih htext rest hrest
    exact ⟨tail, rfl, htail⟩

/-- The pieces of a text without braces are its characters. -/
theorem tokens_of_isPlain {p : Pattern} (h : IsPlain p.text) : p.tokens = p.text.map .literal := by
  rw [tokens_of_text_eq_append (List.append_nil p.text).symm h rfl, List.append_nil]

/-- A text without braces matches itself only. -/
theorem matchesPath_iff_of_isPlain {p : Pattern} (h : IsPlain p.text) {path : List Char} :
    p.matchesPath path = true ↔ path = p.text := by
  rw [matchesPath_of_text_eq_append (List.append_nil p.text).symm h rfl, Option.any_eq_true]
  constructor
  · rintro ⟨rest, hrest, hmatches⟩
    obtain rfl : rest = [] := by simpa [Token.matchesPath] using hmatches
    rw [Text.dropStart?_eq_some_iff.1 hrest, List.append_nil]
  · rintro rfl
    exact ⟨[], Text.dropStart?_eq_some_iff.2 (List.append_nil _).symm, rfl⟩

/-- A pattern with the pieces of a text without braces is that text. -/
theorem text_of_tokens {p : Pattern} (hplain : IsPlain text) (h : p.tokens = text.map .literal) :
    p.text = text := by
  obtain ⟨tail, htext, htail⟩ := exists_text_of_tokens hplain (h.trans (List.append_nil _).symm)
  rw [htext, eq_nil_of_readTokens htail, List.append_nil]

theorem isPathLike_text (p : Pattern) : isPathLike p.text = true := by
  have h := p.tokens_eq
  rw [tokens?] at h
  split at h
  · next hpath => exact hpath
  · cases h

theorem parse?_text (p : Pattern) : parse? p.text = some p := by
  rw [parse?]
  split
  · next h => rw [p.tokens_eq] at h; cases h
  · next tokens h =>
    exact congrArg some (eq_of_text_eq rfl)

/-- A pattern can stand beside another one in a table: the two are not the same, and they do not
clash. -/
structure Fits (p other : Pattern) : Prop where
  text : other.text ≠ p.text
  clash : Token.clash p.tokens other.tokens = false

/-- A text without braces fits beside every pattern that is not the same. -/
theorem fits_of_isPlain {p other : Pattern} (h : IsPlain p.text) (hne : other.text ≠ p.text) :
    p.Fits other ∧ other.Fits p := by
  have hclash : ¬Token.clash p.tokens other.tokens = true := by
    intro hclash
    rw [tokens_of_isPlain h, ← List.append_nil (p.text.map _)] at hclash
    obtain ⟨more, hmore, hrest⟩ := Token.exists_of_clash_literals hclash
    rw [Token.clash_nil_iff.1 hrest, List.append_nil] at hmore
    exact hne (text_of_tokens h hmore)
  refine ⟨⟨hne, by simpa using hclash⟩, ⟨hne.symm, ?_⟩⟩
  rw [Token.clash_comm]
  simpa using hclash

end Pattern

/-! ### Tables -/

namespace Table

variable {α : Type} {t : Table α} {r : Route α} {path : List Char}

/-- Of two routes one that goes before the other is preferred, whichever comes first. -/
theorem prefer_of_preferred {s : Route α}
    (h : s = r ∨ Token.preferred r.pattern.tokens s.pattern.tokens = true) :
    prefer r s = r ∧ prefer s r = r := by
  rcases h with rfl | h
  · rw [prefer]
    exact ⟨ite_self _, ite_self _⟩
  · refine ⟨?_, if_pos h⟩
    rw [prefer, Token.preferred_asymm h]
    rfl

/-- A route that goes before all others of a list is found in the end. -/
theorem foldl_prefer_of_preferred {routes : List (Route α)} {found : Route α}
    (hr : r = found ∨ r ∈ routes)
    (hbest : ∀ s ∈ found :: routes, s = r ∨
      Token.preferred r.pattern.tokens s.pattern.tokens = true) :
    routes.foldl prefer found = r := by
  induction routes generalizing found with
  | nil =>
    rcases hr with rfl | hr
    · rfl
    · exact absurd hr List.not_mem_nil
  | cons s routes ih =>
    obtain ⟨hfound, hs, hroutes⟩ : _ ∧ _ ∧ _ := by
      simpa only [List.forall_mem_cons] using hbest
    rw [List.foldl_cons]
    by_cases hnow : r = found ∨ r = s
    · have hprefer : prefer found s = r := by
        rcases hnow with rfl | rfl
        · exact (prefer_of_preferred hs).1
        · exact (prefer_of_preferred hfound).2
      rw [hprefer]
      exact ih (.inl rfl) (List.forall_mem_cons.2 ⟨.inl rfl, hroutes⟩)
    · have hlater : r ∈ routes := by
        rcases hr with hr | hr
        · exact absurd (.inl hr) hnow
        · exact (List.mem_cons.1 hr).resolve_left fun h => hnow (.inr h)
      have hkept : prefer found s = found ∨ prefer found s = s := by
        rw [prefer]
        split
        · exact .inr rfl
        · exact .inl rfl
      refine ih (.inr hlater) (List.forall_mem_cons.2 ⟨?_, hroutes⟩)
      rcases hkept with hkept | hkept <;> rw [hkept]
      · exact hfound
      · exact hs

/-- **The route of a path** is the one that no other route for the path goes before. -/
theorem find?_of_preferred (hr : r ∈ t.matching path)
    (hbest : ∀ s ∈ t.matching path, s = r ∨
      Token.preferred r.pattern.tokens s.pattern.tokens = true) : t.find? path = some r := by
  cases hmatching : t.matching path with
  | nil =>
    rw [hmatching] at hr
    exact absurd hr List.not_mem_nil
  | cons first rest =>
    rw [hmatching] at hr hbest
    rw [find?, show t.routes.filter (·.pattern.matchesPath path) = first :: rest from hmatching]
    exact congrArg some (foldl_prefer_of_preferred (List.mem_cons.1 hr) hbest)

/-- **A path that is the text of a pattern** without braces belongs to its route. -/
theorem find?_text (hplain : IsPlain r.pattern.text) (hr : r ∈ t.routes)
    (honly : ∀ s ∈ t.routes, s.pattern.text = r.pattern.text → s = r) :
    t.find? r.pattern.text = some r := by
  have htokens := Pattern.tokens_of_isPlain hplain
  refine find?_of_preferred (List.mem_filter.2 ⟨hr, ?_⟩) fun s hs => ?_
  · exact (Pattern.matchesPath_iff_of_isPlain hplain).2 rfl
  · obtain ⟨hs, hmatches⟩ := List.mem_filter.1 hs
    have hmatches : Token.matchesPath s.pattern.tokens (r.pattern.text ++ []) = true := by
      simpa [Pattern.matchesPath] using hmatches
    rcases Token.literals_or_preferred hmatches with ⟨more, hmore, hnil⟩ | hpreferred
    · obtain rfl : more = [] := Token.eq_nil_of_matchesPath_nil hnil
      rw [List.append_nil] at hmore
      exact .inl (honly s hs (Pattern.text_of_tokens hplain hmore))
    · refine .inr ?_
      rw [htokens, ← List.append_nil (r.pattern.text.map _)]
      exact hpreferred []

/-- Nothing clashes with a pattern if none of the patterns does. -/
theorem clashing?_eq_none {tokens : List (Token Char)} {patterns : List Pattern}
    (h : ∀ p ∈ patterns, Token.clash tokens p.tokens = false) :
    clashing? tokens patterns = none := by
  have hnone : patterns.filter (fun p => Token.clash tokens p.tokens) = [] := by
    rw [List.filter_eq_nil_iff]
    intro p hp
    simp [h p hp]
  rw [clashing?, hnone]
  rfl

/-- **A route that fits beside all others** becomes the last one. -/
theorem insert_of_fits (h : ∀ s ∈ t.routes, r.pattern.Fits s.pattern) :
    t.insert r = .ok { t with routes := t.routes ++ [r] } := by
  have hhas : t.hasPattern r.pattern.text = false := by
    rw [hasPattern, List.any_eq_false]
    intro s hs
    simpa using (h s hs).text
  have hnone : clashing? r.pattern.tokens (t.routes.map (·.pattern)) = none := by
    refine clashing?_eq_none fun p hp => ?_
    obtain ⟨s, hs, rfl⟩ := List.mem_map.1 hp
    exact (h s hs).clash
  rw [insert, hhas, hnone]
  rfl

/-- So do routes that fit beside all others and beside each other. -/
theorem foldlM_insert_of_fits {routes : List (Route α)}
    (h : ∀ r ∈ routes, ∀ s ∈ t.routes, r.pattern.Fits s.pattern)
    (hroutes : routes.Pairwise fun s r => r.pattern.Fits s.pattern) :
    routes.foldlM insert t = .ok { t with routes := t.routes ++ routes } := by
  induction routes generalizing t with
  | nil =>
    rw [List.append_nil]
    rfl
  | cons r routes ih =>
    obtain ⟨hr, hrest⟩ := List.pairwise_cons.1 hroutes
    obtain ⟨hfirst, hothers⟩ := List.forall_mem_cons.1 h
    have hlater : ∀ q ∈ routes, ∀ s ∈ t.routes ++ [r], q.pattern.Fits s.pattern := by
      intro q hq s hs
      rcases List.mem_append.1 hs with hs | hs
      · exact hothers q hq s hs
      · rw [List.mem_singleton.1 hs]
        exact hr q hq
    have hadded := ih (t := { t with routes := t.routes ++ [r] }) hlater hrest
    rw [List.foldlM_cons, insert_of_fits hfirst]
    rw [List.append_assoc] at hadded
    exact hadded

/-- Tables whose routes fit beside each other go together. -/
theorem merge_of_fits {other : Table α} (hfallback : other.fallback = none)
    (h : ∀ r ∈ other.routes, ∀ s ∈ t.routes, r.pattern.Fits s.pattern)
    (hroutes : other.routes.Pairwise fun s r => r.pattern.Fits s.pattern) :
    t.merge other = .ok { t with routes := t.routes ++ other.routes } := by
  rw [merge, hfallback, Option.or_none, if_neg (by simp)]
  exact foldlM_insert_of_fits h hroutes

/-- An entry is added as the route of its pattern. -/
theorem add?_of_parse? {path : List Char} {p : Pattern} (h : Pattern.parse? path = some p)
    (verb : Option Verb) (endpoint : α) (t : Table α) :
    t.add? ⟨some path, verb, endpoint⟩ = (t.insert ⟨p, match verb with
      | some verb => .one verb endpoint
      | none => .all endpoint⟩).toOption := by
  have hadd : t.add? ⟨some path, verb, endpoint⟩ = (Pattern.parse? path).bind fun p =>
      (t.insert ⟨p, match verb with
        | some verb => .one verb endpoint
        | none => .all endpoint⟩).toOption := rfl
  rw [hadd, h]
  rfl

/-- Entries for all methods of some patterns are added as the routes of these. -/
theorem foldlM_add?_text (endpoint : α) (patterns : List Pattern) (t : Table α) :
    (patterns.map fun p => (⟨some p.text, none, endpoint⟩ : RouteEntry α)).foldlM add? t =
      ((patterns.map fun p => (⟨p, .all endpoint⟩ : Route α)).foldlM insert t).toOption := by
  induction patterns generalizing t with
  | nil => rfl
  | cons p patterns ih =>
    rw [List.map_cons, List.map_cons, List.foldlM_cons, List.foldlM_cons,
      add?_of_parse? p.parse?_text]
    cases hinsert : t.insert ⟨p, .all endpoint⟩ with
    | error clash => rfl
    | ok u => exact ih u

end Table

end ProtocolGateway

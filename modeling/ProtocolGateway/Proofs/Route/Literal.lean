import ProtocolGateway.Proofs.Route.Lookup

/-!
# Patterns that start literally

A pattern that starts with a text without braces matches the paths that start with this text and go
on as the rest of the pattern says.

## Main results

* `Pattern.matchesPath_of_text_eq_append`: what a pattern with a literal start matches.
* `Table.exists_routes_of_foldlM_add?`: a table of entries for all methods, as routes put together.
-/

namespace ProtocolGateway

/-- A text without braces. -/
def IsPlain (text : List Char) : Prop := ∀ c ∈ text, c ≠ '\x7b' ∧ c ≠ '\x7d'

instance (text : List Char) : Decidable (IsPlain text) :=
  List.decidableBAll (fun c => c ≠ '\x7b' ∧ c ≠ '\x7d') text

namespace Pattern

variable {text tail : List Char} {c : Char}

theorem unescape_cons (hc : c ≠ '\x7b' ∧ c ≠ '\x7d') (rest : List Char) :
    unescape (c :: rest) = (c, false) :: unescape rest := by
  cases rest with
  | nil => rfl
  | cons d rest => rw [unescape, if_neg (by simp [hc])]

theorem unescape_append (h : IsPlain text) (tail : List Char) :
    unescape (text ++ tail) = text.map (·, false) ++ unescape tail := by
  induction text with
  | nil => rfl
  | cons c text ih =>
    obtain ⟨hc, htext⟩ := List.forall_mem_cons.1 h
    rw [List.cons_append, unescape_cons hc, ih htext, List.map_cons, List.cons_append]

theorem readTokens_append (h : IsPlain text) (more : List (Char × Bool)) :
    readTokens none (text.map (·, false) ++ more) =
      (readTokens none more).map (text.map .literal ++ ·) := by
  induction text with
  | nil => simp
  | cons c text ih =>
    obtain ⟨hc, htext⟩ := List.forall_mem_cons.1 h
    rw [List.map_cons, List.cons_append, readTokens, if_neg (by simp [hc.2]),
      if_neg (by simp [hc.1]), ih htext, Option.map_map]
    rfl

theorem readTokens_of_tokens? {tokens : List (Token Char)} (h : tokens? text = some tokens) :
    readTokens none (unescape text) = some tokens := by
  rw [tokens?] at h
  split at h
  · exact (Option.filter_eq_some_iff.1 h).1
  · simp at h

/-- A pattern starts with a slash. -/
theorem text_ne_nil (p : Pattern) : p.text ≠ [] := by
  intro hnil
  have h := p.tokens_eq
  rw [hnil] at h
  simp [tokens?, isPathLike] at h

/-- The pieces of a pattern that starts without braces: its characters, and the pieces of the rest,
as far as that can be read on its own. -/
theorem tokens_of_text_eq_append {p : Pattern} {tokens : List (Token Char)}
    (htext : p.text = text ++ tail) (hplain : IsPlain text)
    (htail : readTokens none (unescape tail) = some tokens) :
    p.tokens = text.map .literal ++ tokens := by
  have hread := readTokens_of_tokens? p.tokens_eq
  rw [htext, unescape_append hplain, readTokens_append hplain, htail, Option.map_some] at hread
  exact (Option.some.inj hread).symm

theorem matchesPath_literals (text path : List Char) (tokens : List (Token Char)) :
    Token.matchesPath (text.map .literal ++ tokens) path =
      (Text.dropStart? text path).any (Token.matchesPath tokens) := by
  induction text generalizing path with
  | nil => rfl
  | cons c text ih =>
    cases path with
    | nil => rfl
    | cons d path =>
      rw [List.map_cons, List.cons_append, Token.matchesPath, ih, Text.dropStart?]
      by_cases hcd : c = d <;> simp [hcd]

/-- **What a pattern with a literal start matches.** -/
theorem matchesPath_of_text_eq_append {p : Pattern} {tokens : List (Token Char)}
    (htext : p.text = text ++ tail) (hplain : IsPlain text)
    (htail : readTokens none (unescape tail) = some tokens) (path : List Char) :
    p.matchesPath path = (Text.dropStart? text path).any (Token.matchesPath tokens) := by
  rw [matchesPath, tokens_of_text_eq_append htext hplain htail, matchesPath_literals]

theorem text_of_parse? {p : Pattern} (h : parse? text = some p) : p.text = text := by
  rw [parse?] at h
  split at h
  · simp at h
  · obtain rfl := Option.some.inj h
    rfl

end Pattern

/-! ### Tables of entries for all methods -/

namespace Table

variable {α : Type} {t t' : Table α} {endpoint : α}

theorem add?_eq_some {path : List Char} (h : t.add? ⟨some path, none, endpoint⟩ = some t') :
    ∃ pattern : Pattern, pattern.text = path ∧ t.insert ⟨pattern, .all endpoint⟩ = .ok t' := by
  obtain ⟨pattern, hparse, hadd⟩ := Option.bind_eq_some_iff.1 h
  refine ⟨pattern, Pattern.text_of_parse? hparse, ?_⟩
  cases hins : t.insert ⟨pattern, .all endpoint⟩ with
  | error e => simp [hins, Except.toOption] at hadd
  | ok u => simpa [hins, Except.toOption] using hadd

/-- A table of entries for all methods is one of as many routes, put together one by one. -/
theorem exists_routes_of_foldlM_add? {paths : List (List Char)}
    (h : (paths.map fun path => (⟨some path, none, endpoint⟩ : RouteEntry α)).foldlM add? t =
      some t') :
    ∃ patterns : List Pattern, patterns.map (·.text) = paths ∧
      (patterns.map fun p => (⟨p, .all endpoint⟩ : Route α)).foldlM insert t = .ok t' := by
  induction paths generalizing t with
  | nil => exact ⟨[], rfl, by simpa [pure, Except.pure] using h⟩
  | cons path paths ih =>
    rw [List.map_cons, List.foldlM_cons] at h
    obtain ⟨u, hadd, hrest⟩ := Option.bind_eq_some_iff.1 h
    obtain ⟨pattern, htext, hins⟩ := add?_eq_some hadd
    obtain ⟨patterns, htexts, hpatterns⟩ := ih hrest
    refine ⟨pattern :: patterns, by rw [List.map_cons, htext, htexts], ?_⟩
    rw [List.map_cons, List.foldlM_cons, hins]
    exact hpatterns

end Table

end ProtocolGateway

import ProtocolGateway.Proofs.Http.Reserved
import ProtocolGateway.Proofs.Route.Preference

/-!
# Which route a reserved path belongs to

The routes that forward have three patterns. Beside them a table may have any pattern that is not
written below the reserved path itself: none of these clashes with them, and none goes before them
on a path that they have. So a reserved path is forwarded, whatever else is in the table, unless a
route is written below the reserved path.

## Main definitions

* `ForwardPatterns`: the three patterns.

## Main results

* `ForwardPatterns.fits`: they fit beside all patterns that are not written below the reserved path.
* `Table.find?_forward`: the route of a path that they have.
-/

namespace ProtocolGateway

/-- The patterns of the routes that forward. -/
structure ForwardPatterns (reserved : List Char) where
  itself : Pattern
  slash : Pattern
  below : Pattern
  text_itself : itself.text = reserved
  text_slash : slash.text = reserved ++ ['/']
  text_below : below.text = reserved ++ "/\x7b*rest\x7d".toList

namespace ForwardPatterns

variable {reserved : List Char} (f : ForwardPatterns reserved) {other p : Pattern}

/-- The three patterns in their order. -/
def list : List Pattern := [f.itself, f.slash, f.below]

/-- The routes that forward. -/
def routes : List (Route Endpoint) := f.list.map fun p => ⟨p, .all .forward⟩

theorem mem_list_iff : p ∈ f.list ↔ p = f.itself ∨ p = f.slash ∨ p = f.below := by
  simp [list]

/-- The patterns themselves are written below the reserved path. -/
theorem pathBelow?_text (hp : p ∈ f.list) : pathBelow? reserved p.text ≠ none := by
  have hbelow : (pathBelow? reserved p.text).isSome := by
    rw [isSome_pathBelow?_iff]
    rcases f.mem_list_iff.1 hp with rfl | rfl | rfl
    · exact .inl f.text_itself
    · exact .inr (f.text_slash ▸ List.prefix_refl _)
    · exact .inr (f.text_below ▸ ⟨"\x7b*rest\x7d".toList, by simp⟩)
  intro hnone
  rw [hnone] at hbelow
  exact Bool.false_ne_true hbelow

section plain

variable (hplain : IsPlain reserved)
include hplain

theorem isPlain_itself : IsPlain f.itself.text := by
  rw [f.text_itself]
  exact hplain

theorem isPlain_slash : IsPlain f.slash.text := by
  rw [f.text_slash]
  intro c hc
  rcases List.mem_append.1 hc with hc | hc
  · exact hplain c hc
  · rw [List.mem_singleton.1 hc]
    decide

theorem tokens_below :
    f.below.tokens = reserved.map .literal ++ [.literal '/', .rest "rest".toList] :=
  Pattern.tokens_of_text_eq_append f.text_below hplain rfl

/-- What is written below the reserved path starts with it and a slash. -/
theorem pathBelow?_of_tokens {more : List (Token Char)}
    (h : other.tokens = reserved.map .literal ++ more)
    (hmore : more = [] ∨ ∃ rest, more = .literal '/' :: rest) :
    pathBelow? reserved other.text ≠ none := by
  obtain ⟨tail, htext, htail⟩ := Pattern.exists_text_of_tokens hplain h
  rw [htext]
  rcases hmore with rfl | ⟨rest, rfl⟩
  · rw [Pattern.eq_nil_of_readTokens htail, List.append_nil,
      pathBelow?_eq_some_iff.2 (.inl ⟨rfl, rfl⟩)]
    simp
  · obtain ⟨tail, rfl, -⟩ := Pattern.exists_of_readTokens_literal (by decide) htail
    rw [pathBelow?_eq_some_iff.2 (.inr ⟨tail, rfl, rfl⟩)]
    simp

/-- **The patterns fit beside a pattern** that is not written below the reserved path. -/
theorem fits (h : pathBelow? reserved other.text = none) (hp : p ∈ f.list) : p.Fits other := by
  have hne : other.text ≠ p.text := fun htext => f.pathBelow?_text hp (htext ▸ h)
  rcases f.mem_list_iff.1 hp with rfl | rfl | rfl
  · exact (Pattern.fits_of_isPlain (f.isPlain_itself hplain) hne).1
  · exact (Pattern.fits_of_isPlain (f.isPlain_slash hplain) hne).1
  · refine ⟨hne, ?_⟩
    by_contra hclash
    rw [f.tokens_below hplain, Bool.not_eq_false] at hclash
    obtain ⟨more, htokens, hmore⟩ := Token.exists_of_clash_literals hclash
    have hslash : Token.clash (['/'].map .literal ++ [.rest "rest".toList]) more = true := hmore
    obtain ⟨rest, hrest, -⟩ := Token.exists_of_clash_literals hslash
    exact pathBelow?_of_tokens hplain htokens (.inr ⟨rest, hrest⟩) h

/-- The patterns fit beside each other. -/
theorem pairwise_fits : f.list.Pairwise fun p q => q.Fits p := by
  have hitself := f.isPlain_itself hplain
  have hslash := f.isPlain_slash hplain
  have h₁ : f.itself.text ≠ f.slash.text := by
    rw [f.text_itself, f.text_slash]
    simp
  have h₂ : f.below.text ≠ f.itself.text := by
    rw [f.text_below, f.text_itself]
    simp
  have h₃ : f.below.text ≠ f.slash.text := by
    rw [f.text_below, f.text_slash]
    simp
  simp only [list, List.pairwise_cons, List.forall_mem_cons, List.not_mem_nil, false_implies,
    implies_true, and_true, List.Pairwise.nil]
  exact ⟨⟨(Pattern.fits_of_isPlain hslash h₁).1, (Pattern.fits_of_isPlain hitself h₂).2⟩,
    (Pattern.fits_of_isPlain hslash h₃).2⟩

theorem pairwise_routes : f.routes.Pairwise fun s r => r.pattern.Fits s.pattern :=
  List.pairwise_map.2 (f.pairwise_fits hplain)

/-- The pieces of the patterns: those of the reserved path, and at most a slash and a rest. -/
theorem exists_tokens (hp : p ∈ f.list) :
    ∃ tokens, p.tokens = reserved.map .literal ++ tokens ∧
      (tokens = [] ∨ ∃ more, tokens = .literal '/' :: more) := by
  rcases f.mem_list_iff.1 hp with rfl | rfl | rfl
  · refine ⟨[], ?_, .inl rfl⟩
    rw [Pattern.tokens_of_isPlain (f.isPlain_itself hplain), f.text_itself, List.append_nil]
  · refine ⟨[.literal '/'], ?_, .inr ⟨[], rfl⟩⟩
    rw [Pattern.tokens_of_isPlain (f.isPlain_slash hplain), f.text_slash, List.map_append]
    rfl
  · exact ⟨_, f.tokens_below hplain, .inr ⟨_, rfl⟩⟩

/-- What the patterns match: the reserved path itself, or what goes on with a slash. -/
theorem exists_of_matches (hp : p ∈ f.list) {path : List Char} (h : p.matchesPath path = true) :
    ∃ tokens rest, p.tokens = reserved.map .literal ++ tokens ∧ path = reserved ++ rest ∧
      (tokens = [] ∧ rest = [] ∨
        ∃ more tail, tokens = .literal '/' :: more ∧ rest = '/' :: tail) := by
  obtain ⟨tokens, htokens, hshape⟩ := f.exists_tokens hplain hp
  rw [Pattern.matchesPath, htokens, Pattern.matchesPath_literals] at h
  obtain ⟨rest, hrest, hmatches⟩ := (Option.any_eq_true _ _).1 h
  refine ⟨tokens, rest, htokens, Text.dropStart?_eq_some_iff.1 hrest, ?_⟩
  rcases hshape with rfl | ⟨more, rfl⟩
  · exact .inl ⟨rfl, by simpa [Token.matchesPath] using hmatches⟩
  · cases rest with
    | nil => exact absurd hmatches Bool.false_ne_true
    | cons c tail =>
      obtain ⟨rfl, -⟩ : '/' = c ∧ Token.matchesPath more tail = true := by
        simpa [Token.matchesPath] using hmatches
      exact .inr ⟨more, tail, rfl, rfl⟩

/-- **The patterns go before a pattern** that is not written below the reserved path, on all paths
that both have. -/
theorem preferred (h : pathBelow? reserved other.text = none) (hp : p ∈ f.list) {path : List Char}
    (hpath : p.matchesPath path = true) (hother : other.matchesPath path = true) :
    Token.preferred p.tokens other.tokens = true := by
  obtain ⟨tokens, rest, htokens, rfl, hrest⟩ := f.exists_of_matches hplain hp hpath
  rw [htokens]
  rcases Token.literals_or_preferred hother with ⟨more, hmore, hmatches⟩ | hpreferred
  -- The other pattern starts with the reserved path too. It cannot end there or go on with a slash,
  -- since then it would be written below; so it goes on with a rest.
  · rcases hrest with ⟨-, rfl⟩ | ⟨tokens, tail, rfl, rfl⟩
    · have hnil := Token.eq_nil_of_matchesPath_nil hmatches
      exact absurd h (pathBelow?_of_tokens hplain hmore (.inl hnil))
    · rw [hmore, Token.preferred_append]
      cases more with
      | nil => exact absurd hmatches Bool.false_ne_true
      | cons t more =>
        cases t with
        | literal c =>
          obtain ⟨rfl, -⟩ : c = '/' ∧ Token.matchesPath more tail = true := by
            simpa [Token.matchesPath] using hmatches
          exact absurd h (pathBelow?_of_tokens hplain hmore (.inr ⟨more, rfl⟩))
        | segment name => simp [Token.matchesPath] at hmatches
        | rest name => rfl
  · exact hpreferred tokens

end plain

end ForwardPatterns

/-- **The route of a path that a pattern forwards**, in a table where all other routes that have the
path are written elsewhere. -/
theorem Table.find?_forward {reserved path : List Char} {f : ForwardPatterns reserved}
    (hplain : IsPlain reserved) {t : Table Endpoint} {p : Pattern} (hp : p ∈ f.list)
    (hpath : p.matchesPath path = true) {e : Endpoints Endpoint} (hr : ⟨p, e⟩ ∈ t.routes)
    (hothers : ∀ s ∈ t.routes, s.pattern.matchesPath path = true →
      s = ⟨p, e⟩ ∨ pathBelow? reserved s.pattern.text = none) :
    t.find? path = some ⟨p, e⟩ := by
  refine find?_of_preferred (List.mem_filter.2 ⟨hr, hpath⟩) fun s hs => ?_
  obtain ⟨hs, hmatches⟩ := List.mem_filter.1 hs
  rcases hothers s hs hmatches with hsame | helsewhere
  · exact .inl hsame
  · exact .inr (f.preferred hplain helsewhere hp hpath hmatches)

/-! ### Texts that can be reserved -/

section pathLike

variable {text tail : List Char}

/-- What goes on with a slash has the shape of a path if both parts have. -/
theorem Pattern.isPathLike_append (htext : isPathLike text = true)
    (htail : (Text.splitOn '/' tail).all
      (fun s => s.head? ≠ some ':' && s.head? ≠ some '*') = true) :
    isPathLike (text ++ '/' :: tail) = true := by
  rw [isPathLike, Bool.and_eq_true] at htext ⊢
  refine ⟨?_, ?_⟩
  · cases text with
    | nil => rfl
    | cons c text => exact htext.1
  · rw [Text.splitOn_append, List.all_append, htext.2, htail]
    rfl

/-- A text without braces is the start of a pattern, if the whole has the shape of a path and the
rest can be read without segments. -/
theorem Pattern.exists_of_isPathLike {tokens : List (Token Char)} (hplain : IsPlain text)
    (tail : List Char) (hpath : isPathLike (text ++ tail) = true)
    (htail : readTokens none (unescape tail) = some tokens)
    (hcount : tokens.countP isSegment = 0) : ∃ p : Pattern, p.text = text ++ tail := by
  have hliterals : (text.map Token.literal).countP isSegment = 0 := by
    rw [List.countP_eq_zero]
    intro t ht
    obtain ⟨c, -, rfl⟩ := List.mem_map.1 ht
    exact Bool.false_ne_true
  have htokens : tokens? (text ++ tail) = some (text.map .literal ++ tokens) := by
    rw [tokens?, if_pos hpath, unescape_append hplain, readTokens_append hplain, htail,
      Option.map_some, Option.filter_some, if_pos]
    rw [List.countP_append, hliterals, hcount]
    rfl
  exact ⟨⟨text ++ tail, _, htokens⟩, rfl⟩

end pathLike

/-! ### The table of the routes that forward -/

namespace ForwardPatterns

variable {reserved : List Char}

/-- The patterns make up a table. -/
theorem ofEntries?_eq (f : ForwardPatterns reserved) (hplain : IsPlain reserved) :
    Table.ofEntries? (reservedEntries reserved) = some { routes := f.routes } := by
  have hentries : reservedEntries reserved =
      f.list.map fun p => ⟨some p.text, none, .forward⟩ := by
    simp only [reservedEntries, list, List.map_cons, List.map_nil, f.text_itself, f.text_slash,
      f.text_below]
    simp
  have hinsert : f.routes.foldlM Table.insert {} = .ok { routes := f.routes } :=
    Table.foldlM_insert_of_fits (t := {}) (by simp) (f.pairwise_routes hplain)
  rw [Table.ofEntries?, hentries, Table.foldlM_add?_text]
  exact congrArg Except.toOption hinsert

/-- A text without braces that has the shape of a path can be reserved. -/
theorem exists_of_isPathLike (hplain : IsPlain reserved)
    (hpath : Pattern.isPathLike reserved = true) : Nonempty (ForwardPatterns reserved) := by
  obtain ⟨itself, hitself⟩ := Pattern.exists_of_isPathLike hplain []
    (by rwa [List.append_nil]) rfl rfl
  obtain ⟨slash, hslash⟩ := Pattern.exists_of_isPathLike hplain ['/']
    (Pattern.isPathLike_append hpath rfl) rfl rfl
  obtain ⟨below, hbelow⟩ := Pattern.exists_of_isPathLike hplain "/\x7b*rest\x7d".toList
    (Pattern.isPathLike_append hpath rfl) rfl rfl
  exact ⟨⟨itself, slash, below, by rw [hitself, List.append_nil], hslash, hbelow⟩⟩

end ForwardPatterns

end ProtocolGateway

import ProtocolGateway.Proofs.Uri.Parts

/-!
# A URI below a path is read back

What is left of a URI below a path has the scheme, the authority and the query of that URI. Its text
is read as the same URI again, whatever stands in it: the scheme, which is written in the way in
which it is kept, ends before its colon, the authority before the slash with which the path begins,
and the path before its question mark.

There is one limit. A URI without a path is taken for one with a slash, which its text then has as
well. So what is left of the longest URI that can be read may be too long to be read again.

## Main definitions

* `Uri.Full`: what is known of a URI with a path.

## Main results

* `Uri.Full.parse_render`: a URI with a path is read back.
* `Uri.below?_exact`: when something is left of a URI, and what that is.
* `Uri.below?_longest`: what is left of a URI and is too long to be read.
-/

namespace ProtocolGateway

namespace Uri

/-! ### Reading a URI back -/

/-- What is known of a URI that was read if it has a path. -/
inductive Full : Uri → Prop where
  | target {path : List Char} {query : Option (List Char)}
    (htarget : UriTarget.WellFormed ⟨'/' :: path, query⟩) : Full (ofTarget ⟨'/' :: path, query⟩)
  | absolute {scheme authority path : List Char} {query : Option (List Char)}
    (hscheme : Names scheme scheme) (hauth : IsAuthority authority) (hne : authority ≠ [])
    (htarget : UriTarget.WellFormed ⟨'/' :: path, query⟩) :
    Full ⟨some scheme, some authority, ⟨'/' :: path, query⟩⟩

section Full

variable {text above rest tail : List Char} {u v : Uri}

/-- What begins with neither a slash nor an asterisk is read part by part. -/
theorem parse_eq_parseFull {c : Char} (hsize : size (c :: text) ≤ maxSize) (hslash : c ≠ '/')
    (hstar : c ≠ '*') : parse (c :: text) = parseFull (c :: text) := by
  unfold parse
  rw [if_neg (Nat.not_lt.2 hsize)]
  split
  · next heq => cases heq
  · next heq => exact absurd (List.head_eq_of_cons_eq heq) hstar
  · next heq => exact absurd (List.head_eq_of_cons_eq heq) hslash
  · rfl

theorem parse_append_eq_parseFull {name scheme : List Char} (hname : Names name scheme)
    (hsize : size (name ++ ':' :: text) ≤ maxSize) :
    parse (name ++ ':' :: text) = parseFull (name ++ ':' :: text) := by
  cases name with
  | nil => exact parse_eq_parseFull hsize (by decide) (by decide)
  | cons c name =>
    have hc : isSchemeChar c = true := hname.chars c (List.mem_cons_self ..)
    refine parse_eq_parseFull hsize ?_ ?_
    · rintro rfl
      exact absurd hc (by decide)
    · rintro rfl
      exact absurd hc (by decide)

/-- **A URI with a path is read back**, unless its text is too long. -/
theorem Full.parse_render (h : Full v) :
    parse v.render = if maxSize < size v.render then .error .tooLong else .ok v := by
  split
  · next hlong =>
    unfold parse
    exact if_pos hlong
  · next hsize =>
    cases h with
    | @target path query htarget =>
      unfold parse
      rw [if_neg hsize]
      show (UriTarget.parse (UriTarget.render ⟨'/' :: path, query⟩)).map ofTarget = _
      rw [UriTarget.parse_render htarget]
      rfl
    | @absolute scheme authority path query hscheme hauth hne htarget =>
      have hrender : render ⟨some scheme, some authority, ⟨'/' :: path, query⟩⟩ =
          scheme ++ ':' :: '/' :: '/' :: (authority ++ UriTarget.render ⟨'/' :: path, query⟩) := by
        show scheme ++ "://".toList ++ authority ++ UriTarget.render ⟨'/' :: path, query⟩ = _
        simp
      have htake : takeAuthority (authority ++ UriTarget.render ⟨'/' :: path, query⟩) =
          .ok (authority, UriTarget.render ⟨'/' :: path, query⟩) := by
        refine takeAuthority_eq_ok_iff.2 ⟨rfl, hauth, ?_⟩
        rintro c hc
        obtain rfl : '/' = c := Option.some.inj hc
        decide
      rw [hrender] at hsize ⊢
      rw [parse_append_eq_parseFull hscheme (Nat.not_lt.1 hsize), parseFull,
        takeScheme_append hscheme (by simp [hne])]
      simp only [bind, Except.bind, htake, Option.isNone_some, Bool.false_eq_true, if_false,
        List.isEmpty_iff, hne, UriTarget.parse_render htarget]
      rfl

/-- What is left of a path begins with a slash. -/
theorem pathBelow?_eq_cons {path : List Char} (h : pathBelow? above path = some rest) :
    ∃ tail, rest = '/' :: tail := by
  rcases pathBelow?_eq_some_iff.1 h with ⟨-, rfl⟩ | ⟨tail, -, rfl⟩
  · exact ⟨[], rfl⟩
  · exact ⟨tail, rfl⟩

/-- What is left of a URI has a path. -/
theorem Reads.full_of_below? (h : Reads text u) (hu : u.WellFormed) (habove : above ≠ [])
    (hbelow : u.below? above = some v) : Full v := by
  rw [below?_eq_map habove hu] at hbelow
  obtain ⟨rest, hpath, rfl⟩ := Option.map_eq_some_iff.1 hbelow
  obtain ⟨tail, rfl⟩ := pathBelow?_eq_cons hpath
  have htarget : UriTarget.WellFormed ⟨'/' :: tail, u.query⟩ := by
    refine ⟨fun c hc => ?_, hu.target.query⟩
    rcases mem_of_pathBelow? hpath hc with rfl | hmem
    · decide
    · exact path_chars hu c hmem
  cases h with
  | target _ => exact .target htarget
  | authority _ =>
    rw [show path ⟨none, some _, ⟨[], none⟩⟩ = [] from rfl, pathBelow?_nil habove] at hpath
    cases hpath
  | absolute hscheme hauth hne _ => exact .absolute hscheme.self hauth hne htarget

end Full

/-! ### Which texts are too long -/

section long

variable {text above rest : List Char} {u v : Uri}

/-- What stands before the path. -/
def head (u : Uri) : List Char :=
  (match u.scheme with
    | none => []
    | some scheme => scheme ++ "://".toList) ++ u.authority.getD []

theorem size_render_target {path : List Char} {query : Option (List Char)} :
    size (UriTarget.render ⟨path, query⟩) = size path + size (UriTarget.render ⟨[], query⟩) :=
  size_append

theorem size_render : size u.render =
    size u.head + (size u.path + size (UriTarget.render ⟨[], u.query⟩)) := by
  rw [← size_render_target, ← size_append]
  rfl

/-- All of a text is kept but a fragment. -/
theorem eq_render_append {target : UriTarget} (h : UriTarget.parse text = .ok target) :
    ∃ fragment, text = target.render ++ fragment := by
  have htext := List.takeWhile_append_dropWhile (p := (!UriTarget.endsPath ·)) (l := text)
  rw [UriTarget.parse] at h
  split at h
  · cases h
  · split at h
    · next rest hrest =>
      dsimp only at h
      split at h
      · obtain rfl := Except.ok.inj h
        refine ⟨rest.dropWhile (· != '#'), ?_⟩
        rw [UriTarget.render, List.append_assoc, List.cons_append,
          List.takeWhile_append_dropWhile, ← hrest, htext]
      · cases h
    · obtain rfl := Except.ok.inj h
      exact ⟨text.dropWhile (!UriTarget.endsPath ·), by simp [UriTarget.render]⟩

/-- What is read from a text is no longer than the text. -/
theorem Reads.size_le (h : Reads text u) :
    size u.head + (size u.target.path + size (UriTarget.render ⟨[], u.query⟩)) ≤ size text := by
  rw [← size_render_target]
  show size u.head + size u.target.render ≤ _
  cases h with
  | target htarget =>
    obtain ⟨fragment, rfl⟩ := eq_render_append htarget
    rw [size_append]
    exact (Nat.zero_add _).trans_le (Nat.le_add_right ..)
  | authority authority => exact Nat.le_refl _
  | @absolute name scheme authority text target hscheme _ _ htarget =>
    obtain ⟨fragment, rfl⟩ := eq_render_append htarget
    have hhead : head ⟨some scheme, some authority, target⟩ =
        scheme ++ "://".toList ++ authority := rfl
    have htext : name ++ ':' :: '/' :: '/' :: (authority ++ (target.render ++ fragment)) =
        name ++ "://".toList ++ authority ++ target.render ++ fragment := by simp
    rw [hhead, htext]
    simp only [size_append, hscheme.size_eq]
    omega

/-- What is left of a path is longer than the path only if that is a slash which is not written. -/
theorem size_pathBelow?_le (habove : above ≠ []) (hpath : pathBelow? above u.path = some rest) :
    size rest ≤ size u.target.path ∨ u.target.path = [] ∧ above = ['/'] ∧ size rest = 1 := by
  rw [path] at hpath
  split at hpath
  · rcases pathBelow?_eq_some_iff.1 hpath with ⟨habove', rfl⟩ | ⟨tail, htail, rfl⟩
    · rw [habove']
      exact .inl (size_pos habove)
    · rw [htail, size_append]
      exact .inl (Nat.le_add_left ..)
  · next hempty =>
    have hempty : u.target.path = [] := by simpa using hempty
    split at hpath
    · rcases pathBelow?_eq_some_iff.1 hpath with ⟨rfl, rfl⟩ | ⟨tail, htail, rfl⟩
      · exact .inr ⟨hempty, rfl, rfl⟩
      · have hlength := congrArg List.length htail
        have hpos := List.length_pos_iff.2 habove
        simp at hlength
        omega
    · rw [pathBelow?_nil habove] at hpath
      cases hpath

/-- **What is left of a URI is too long** only if it has a slash that the URI was read without, and
that slash is one octet too much. -/
theorem Reads.long_of_below? (h : Reads text u) (hu : u.WellFormed) (htext : size text ≤ maxSize)
    (habove : above ≠ []) (hbelow : u.below? above = some v) (hlong : maxSize < size v.render) :
    u.target.path = [] ∧ above = ['/'] ∧ size text = maxSize := by
  rw [below?_eq_map habove hu] at hbelow
  obtain ⟨rest, hpath, rfl⟩ := Option.map_eq_some_iff.1 hbelow
  obtain ⟨tail, rfl⟩ := pathBelow?_eq_cons hpath
  have hle := h.size_le
  have hsize := size_render (u := { u with target := ⟨'/' :: tail, u.query⟩ })
  have hhead : head { u with target := ⟨'/' :: tail, u.query⟩ } = u.head := rfl
  have hquery : query { u with target := ⟨'/' :: tail, u.query⟩ } = u.query := rfl
  have hrest : path { u with target := ⟨'/' :: tail, u.query⟩ } = '/' :: tail := rfl
  rw [hhead, hquery, hrest] at hsize
  rcases size_pathBelow?_le habove hpath with hfits | ⟨hempty, hslash, hone⟩
  · omega
  · refine ⟨hempty, hslash, ?_⟩
    omega

end long

/-! ### What is left of a URI -/

/-- **When something is left of a URI, and what that is.** -/
theorem below?_exact {text above : List Char} {u : Uri} (h : parse text = .ok u)
    (habove : above ≠ []) :
    ((u.below? above).isSome ↔ u.path = above ∨ above ++ ['/'] <+: u.path) ∧
      ∀ v, u.below? above = some v →
        (u.path = above ∧ v.path = ['/'] ∨ u.path ≠ above ∧ u.path = above ++ v.path) ∧
        v.query = u.query ∧ v.scheme = u.scheme ∧ v.authority = u.authority ∧
        (parse v.render = if maxSize < size v.render then .error .tooLong else .ok v) ∧
        (maxSize < size v.render → u.target.path = [] ∧ above = ['/'] ∧ size text = maxSize) := by
  obtain ⟨htext, hreads⟩ := reads_of_parse h
  have hu := wellFormed_of_parse h
  constructor
  · rw [below?_eq_map habove hu, Option.isSome_map, isSome_pathBelow?_iff]
  · intro v hv
    have hfull := hreads.full_of_below? hu habove hv
    refine ⟨?_, ?_, ?_, ?_, hfull.parse_render, hreads.long_of_below? hu htext habove hv⟩
    all_goals
      rw [below?_eq_map habove hu] at hv
      obtain ⟨rest, hpath, rfl⟩ := Option.map_eq_some_iff.1 hv
    · rcases pathBelow?_eq_some_iff.1 hpath with ⟨heq, rfl⟩ | ⟨tail, heq, rfl⟩
      · exact .inl ⟨heq, rfl⟩
      · exact .inr ⟨by simp [heq], heq⟩
    · rfl
    · rfl
    · rfl

/-- A doubled slash and another question mark stand where they stood. -/
theorem below?_exact_doubled :
    parse "http://a/x//y?z?/".toList =
        .ok ⟨some "http".toList, some "a".toList, ⟨"/x//y".toList, some "z?/".toList⟩⟩ ∧
      below? "/x".toList
          ⟨some "http".toList, some "a".toList, ⟨"/x//y".toList, some "z?/".toList⟩⟩ =
        some ⟨some "http".toList, some "a".toList, ⟨"//y".toList, some "z?/".toList⟩⟩ ∧
      parse "http://a//y?z?/".toList =
        .ok ⟨some "http".toList, some "a".toList, ⟨"//y".toList, some "z?/".toList⟩⟩ := by
  have hparse : parse "http://a/x//y?z?/".toList =
      .ok ⟨some "http".toList, some "a".toList, ⟨"/x//y".toList, some "z?/".toList⟩⟩ := by rfl
  have hbelow : below? "/x".toList
      ⟨some "http".toList, some "a".toList, ⟨"/x//y".toList, some "z?/".toList⟩⟩ =
        some ⟨some "http".toList, some "a".toList, ⟨"//y".toList, some "z?/".toList⟩⟩ := by rfl
  obtain ⟨-, -, -, -, hreread, -⟩ := (below?_exact hparse (by decide)).2 _ hbelow
  exact ⟨hparse, hbelow, hreread⟩

/-- The URI of a host, without a path. -/
def ofHost (host : List Char) : Uri := ⟨some "http".toList, some host, ⟨[], none⟩⟩

theorem names_http : Names "http".toList "http".toList :=
  .web (List.all_eq_true.1 (by decide)) (.inl (by decide))

theorem parse_host {host : List Char} (hhost : IsAuthority host) (hne : host ≠ [])
    (hsize : size host + 7 ≤ maxSize) : parse ("http://".toList ++ host) = .ok (ofHost host) := by
  have htext : "http://".toList ++ host = "http".toList ++ ':' :: '/' :: '/' :: host := rfl
  have hlong : size ("http".toList ++ ':' :: '/' :: '/' :: host) ≤ maxSize := by
    rw [← htext, size_append, Nat.add_comm]
    exact hsize
  have htake : takeAuthority host = .ok (host, []) :=
    takeAuthority_eq_ok_iff.2 ⟨(List.append_nil host).symm, hhost, by simp⟩
  rw [htext, parse_append_eq_parseFull names_http hlong, parseFull,
    takeScheme_append names_http hne]
  simp only [bind, Except.bind, htake, Option.isNone_some, Bool.false_eq_true, if_false,
    List.isEmpty_iff, hne]
  rfl

/-- **What is left of the longest URI** that is written without a path cannot be read. -/
theorem below?_longest :
    parse ("http://".toList ++ List.replicate 65527 'a') =
        .ok (ofHost (List.replicate 65527 'a')) ∧
      (ofHost (List.replicate 65527 'a')).below? ['/'] =
        some { ofHost (List.replicate 65527 'a') with target := ⟨['/'], none⟩ } ∧
      parse (render { ofHost (List.replicate 65527 'a') with target := ⟨['/'], none⟩ }) =
        .error .tooLong := by
  generalize hhost : List.replicate 65527 'a' = host
  have hchars : ∀ c ∈ host, c = 'a' := fun c hc => (List.mem_replicate.1 (hhost ▸ hc)).2
  have hauth : IsAuthority host :=
    isAuthority_of_isAuthorityChar fun c hc => by rw [hchars c hc]; decide
  have hsize : size host = 65527 := by
    rw [size_eq_length fun c hc => by rw [hchars c hc]; decide, ← hhost, List.length_replicate]
  have hne : host ≠ [] := by
    rintro rfl
    cases hsize
  have hparse := parse_host hauth hne (by rw [hsize]; decide)
  have hfull : Full { ofHost host with target := ⟨['/'], none⟩ } :=
    .absolute names_http hauth hne ⟨List.forall_mem_singleton.2 (by decide), by simp⟩
  refine ⟨hparse, ?_, ?_⟩
  · rw [below?_eq_map (by simp) (wellFormed_of_parse hparse)]
    rfl
  · have hlong : size (render { ofHost host with target := ⟨['/'], none⟩ }) = 65535 := by
      show size ("http".toList ++ "://".toList ++ host ++ ['/']) = 65535
      rw [size_append, size_append, hsize]
      rfl
    rw [hfull.parse_render, hlong]
    rfl

end Uri

end ProtocolGateway

import ProtocolGateway.Proofs.Uri.Below

/-!
# The parts of a URI

A URI is read part by part: a scheme up to its colon and two slashes, an authority up to a path, a
query or a fragment, and what is left. Each part goes on until a character that cannot belong to it,
so that a part is read again wherever it stands before such a character.

## Main definitions

* `Uri.Names`, `Uri.IsAuthority`: how schemes and authorities are written.
* `Uri.Reads`: what can be read from a text.

## Main results

* `Uri.takeScheme_append`: a scheme is read if something follows it.
* `Uri.takeAuthority_eq_ok_iff`: an authority is read up to where it ends.
* `Uri.reads_of_parse`: nothing else is read.
-/

namespace ProtocolGateway

/-! ### Where a word ends -/

section word

variable {p : Char → Bool} {word rest : List Char}

/-- A word goes on until a character that does not belong to it. -/
theorem takeWhile_word (hword : ∀ c ∈ word, p c = true) (hrest : ∀ c ∈ rest.head?, p c = false) :
    (word ++ rest).takeWhile p = word := by
  rw [List.takeWhile_append_of_pos hword]
  cases rest with
  | nil => simp
  | cons c rest =>
    have hc : p c = false := hrest c rfl
    rw [List.takeWhile_cons_of_neg (by simp [hc]), List.append_nil]

theorem dropWhile_word (hword : ∀ c ∈ word, p c = true) (hrest : ∀ c ∈ rest.head?, p c = false) :
    (word ++ rest).dropWhile p = rest := by
  rw [List.dropWhile_append_of_pos hword]
  cases rest with
  | nil => rfl
  | cons c rest =>
    have hc : p c = false := hrest c rfl
    rw [List.dropWhile_cons_of_neg (by simp [hc])]

theorem head?_dropWhile_eq_false {text : List Char} :
    ∀ c ∈ (text.dropWhile p).head?, p c = false := by
  intro c hc
  have hnot := List.head?_dropWhile_not p text
  rwa [Option.mem_def.1 hc] at hnot

end word

namespace Uri

/-! ### Sizes -/

section size

variable {a b text : List Char}

theorem size_append : size (a ++ b) = size a + size b := by
  rw [size, List.map_append, total_append]
  rfl

theorem size_cons {c : Char} : size (c :: text) = c.utf8Size + size text := rfl

theorem size_pos (h : text ≠ []) : 0 < size text := by
  cases text with
  | nil => exact absurd rfl h
  | cons c text =>
    rw [size_cons]
    exact Nat.add_pos_left (Char.utf8Size_pos c) _

theorem utf8Size_of_isSchemeChar {c : Char} (h : isSchemeChar c = true) : c.utf8Size = 1 := by
  have hle : c.val ≤ 0x7F := by
    rw [isSchemeChar] at h
    delta Char.isAlphanum Char.isAlpha Char.isUpper Char.isLower Char.isDigit at h
    simp only [Bool.or_eq_true, decide_eq_true_eq, Bool.and_eq_true, beq_iff_eq] at h
    rcases h with ((((((⟨-, h⟩ | ⟨-, h⟩) | ⟨-, h⟩) | rfl) | rfl) | rfl) | rfl)
    · exact UInt32.le_trans h (by decide)
    · exact UInt32.le_trans h (by decide)
    · exact UInt32.le_trans h (by decide)
    all_goals decide
  exact Char.utf8Size_eq_one_iff.2 hle

theorem size_eq_length (h : ∀ c ∈ text, isSchemeChar c = true) : size text = text.length := by
  induction text with
  | nil => rfl
  | cons c text ih =>
    obtain ⟨hc, htext⟩ := List.forall_mem_cons.1 h
    rw [size_cons, utf8Size_of_isSchemeChar hc, ih htext, List.length_cons, Nat.add_comm]

end size

/-! ### Schemes -/

/-- A scheme with the name for which it is read. -/
inductive Names : List Char → List Char → Prop where
  | web {name : List Char} (hchars : ∀ c ∈ name, isSchemeChar c = true)
    (hweb : name.map Char.toLower = "http".toList ∨ name.map Char.toLower = "https".toList) :
    Names name (name.map Char.toLower)
  | other {name : List Char} (hchars : ∀ c ∈ name, isSchemeChar c = true)
    (hother : ¬(name.map Char.toLower = "http".toList ∨ name.map Char.toLower = "https".toList))
    (hsize : name.length ≤ maxSchemeSize) : Names name name

section scheme

variable {name scheme text rest : List Char}

theorem Names.chars (h : Names name scheme) : ∀ c ∈ name, isSchemeChar c = true := by
  cases h with
  | web hchars _ | other hchars _ _ => exact hchars

/-- A scheme is written in the way in which it is kept. -/
theorem Names.self (h : Names name scheme) : Names scheme scheme := by
  cases h with
  | web hchars hweb =>
    rcases hweb with hweb | hweb <;> rw [hweb]
    · exact .web (List.all_eq_true.1 (by decide)) (.inl (by decide))
    · exact .web (List.all_eq_true.1 (by decide)) (.inr (by decide))
  | other hchars hother hsize => exact .other hchars hother hsize

theorem Names.length_eq (h : Names name scheme) : scheme.length = name.length := by
  cases h with
  | web => exact List.length_map _
  | other => rfl

theorem Names.size_eq (h : Names name scheme) : size scheme = size name := by
  rw [size_eq_length h.self.chars, size_eq_length h.chars, h.length_eq]

/-- A text without a scheme is left as it is. -/
theorem takeScheme_eq_none (h : takeScheme text = .ok (none, rest)) : rest = text := by
  rw [takeScheme] at h
  grind

/-- A scheme that is read is written before a colon and two slashes. -/
theorem takeScheme_eq_some (h : takeScheme text = .ok (some scheme, rest)) :
    ∃ name, Names name scheme ∧ text = name ++ ':' :: '/' :: '/' :: rest := by
  have hchars : ∀ c ∈ text.takeWhile isSchemeChar, isSchemeChar c = true := fun c hc =>
    List.mem_takeWhile_imp hc
  have htext := List.takeWhile_append_dropWhile (p := isSchemeChar) (l := text)
  rw [takeScheme] at h
  dsimp only at h
  split at h
  · next after hafter =>
    rw [hafter] at htext
    split at h
    · next hweb =>
      simp only [Except.ok.injEq, Prod.mk.injEq, Option.some.injEq] at h
      obtain ⟨rfl, rfl⟩ := h
      exact ⟨_, .web hchars (by simpa using hweb), htext.symm⟩
    · next hother =>
      split at h
      · simp at h
      · split at h
        · simp at h
        · next hsize =>
          simp only [Except.ok.injEq, Prod.mk.injEq, Option.some.injEq] at h
          obtain ⟨rfl, rfl⟩ := h
          exact ⟨_, .other hchars (by simpa using hother) (Nat.not_lt.1 hsize), htext.symm⟩
  · simp at h

/-- A scheme is read if something follows it. -/
theorem takeScheme_append (h : Names name scheme) (hrest : rest ≠ []) :
    takeScheme (name ++ ':' :: '/' :: '/' :: rest) = .ok (some scheme, rest) := by
  have hcolon : ∀ c ∈ (':' :: '/' :: '/' :: rest).head?, isSchemeChar c = false := by
    rintro c hc
    obtain rfl : ':' = c := Option.some.inj hc
    decide
  rw [takeScheme, takeWhile_word h.chars hcolon, dropWhile_word h.chars hcolon]
  cases h with
  | web _ hweb => exact if_pos (by simpa using hweb)
  | other _ hother hsize =>
    have hempty : ¬(name.isEmpty && rest.isEmpty) = true := by simp [hrest]
    exact (if_neg (by simpa using hother)).trans
      ((if_neg hempty).trans (if_neg (Nat.not_lt.2 hsize)))

end scheme

/-! ### Authorities -/

/-- How an authority is written. -/
structure IsAuthority (authority : List Char) : Prop where
  chars : ∀ c ∈ authority, (!endsAuthority c) = true
  scan : ∃ s, authority.foldlM AuthorityScan.step {} = .ok s ∧
    (s.isComplete && authority.getLast? ≠ some '@') = true

/-- An authority goes on until a path, a query or a fragment begins. -/
theorem takeAuthority_eq_ok_iff {text authority rest : List Char} :
    takeAuthority text = .ok (authority, rest) ↔
      text = authority ++ rest ∧ IsAuthority authority ∧
        ∀ c ∈ rest.head?, (!endsAuthority c) = false := by
  constructor
  · intro h
    have hchars : ∀ c ∈ text.takeWhile (!endsAuthority ·), (!endsAuthority c) = true :=
      fun c hc => List.mem_takeWhile_imp (p := (!endsAuthority ·)) hc
    rw [takeAuthority] at h
    split at h
    · simp at h
    · next s hscan =>
      split at h
      · next hends =>
        simp only [Except.ok.injEq, Prod.mk.injEq] at h
        obtain ⟨rfl, rfl⟩ := h
        exact ⟨List.takeWhile_append_dropWhile.symm,
          ⟨hchars, s, hscan, hends⟩, head?_dropWhile_eq_false⟩
      · simp at h
  · rintro ⟨rfl, hauth, hrest⟩
    obtain ⟨s, hscan, hends⟩ := hauth.scan
    rw [takeAuthority, takeWhile_word hauth.chars hrest, dropWhile_word hauth.chars hrest]
    simp only [hscan, hends, if_true]

/-- Letters, digits and what else may stand anywhere are an authority. -/
theorem isAuthority_of_isAuthorityChar {authority : List Char}
    (h : ∀ c ∈ authority, isAuthorityChar c = true) : IsAuthority authority where
  chars c hc := by
    rw [Bool.not_eq_true']
    by_contra hends
    rw [Bool.not_eq_false, endsAuthority, Bool.or_eq_true, Bool.or_eq_true, beq_iff_eq,
      beq_iff_eq, beq_iff_eq] at hends
    have hchar := h c hc
    rcases hends with (rfl | rfl) | rfl <;> exact absurd hchar (by decide)
  scan := by
    have hstep : ∀ c ∈ authority, ∀ s, AuthorityScan.step s c = .ok s := by
      intro c hc s
      have hchar := h c hc
      have hspecial : ∀ d ∈ [':', '[', ']', '@', '%'], c ≠ d := by
        rintro d hd rfl
        revert hd
        simp only [List.mem_cons, List.not_mem_nil, or_false]
        rintro (rfl | rfl | rfl | rfl | rfl) <;> exact absurd hchar (by decide)
      simp only [List.forall_mem_cons] at hspecial
      obtain ⟨h₁, h₂, h₃, h₄, h₅, -⟩ := hspecial
      simp only [AuthorityScan.step, h₁, h₂, h₃, h₄, h₅, hchar, if_true, if_false]
    refine ⟨{}, ?_, ?_⟩
    · induction authority with
      | nil => rfl
      | cons c authority ih =>
        obtain ⟨hc, hrest⟩ := List.forall_mem_cons.1 hstep
        rw [List.foldlM_cons, hc]
        exact ih (List.forall_mem_cons.1 h).2 hrest
    · have hlast : authority.getLast? ≠ some '@' := fun hlast =>
        absurd (h _ (List.mem_of_getLast? hlast)) (by decide)
      simp [AuthorityScan.isComplete, hlast]

/-! ### What can be read -/

/-- What can be read from a text: a path with what follows it, a lone authority, or all parts. -/
inductive Reads : List Char → Uri → Prop where
  | target {text : List Char} {target : UriTarget} (htarget : UriTarget.parse text = .ok target) :
    Reads text (ofTarget target)
  | authority (authority : List Char) : Reads authority ⟨none, some authority, ⟨[], none⟩⟩
  | absolute {name scheme authority text : List Char} {target : UriTarget}
    (hscheme : Names name scheme) (hauth : IsAuthority authority) (hne : authority ≠ [])
    (htarget : UriTarget.parse text = .ok target) :
    Reads (name ++ ':' :: '/' :: '/' :: (authority ++ text)) ⟨some scheme, some authority, target⟩

section Reads

variable {text above rest : List Char} {u : Uri}

theorem reads_of_parseFull (h : parseFull text = .ok u) : Reads text u := by
  rw [parseFull] at h
  cases hscheme : takeScheme text with
  | error e => simp [hscheme, bind, Except.bind] at h
  | ok s =>
    obtain ⟨scheme, afterScheme⟩ := s
    cases hauth : takeAuthority afterScheme with
    | error e => simp [hscheme, hauth, bind, Except.bind] at h
    | ok a =>
      obtain ⟨authority, rest⟩ := a
      obtain ⟨rfl, hauthority, -⟩ := takeAuthority_eq_ok_iff.1 hauth
      simp only [hscheme, hauth, bind, Except.bind] at h
      cases scheme with
      | none =>
        obtain rfl := takeScheme_eq_none hscheme
        simp only [Option.isNone_none, if_true] at h
        split at h
        · next hrest =>
          obtain rfl := List.isEmpty_iff.1 hrest
          obtain rfl := Except.ok.inj h
          rw [List.append_nil]
          exact .authority authority
        · simp [throw, throwThe, MonadExceptOf.throw] at h
      | some scheme =>
        obtain ⟨name, hname, rfl⟩ := takeScheme_eq_some hscheme
        simp only [Option.isNone_some, Bool.false_eq_true, if_false] at h
        split at h
        · simp [throw, throwThe, MonadExceptOf.throw] at h
        · next hne =>
          cases htarget : UriTarget.parse rest with
          | error e => simp [htarget] at h
          | ok target =>
            simp only [htarget] at h
            obtain rfl := Except.ok.inj h
            exact .absolute hname hauthority (by simpa using hne) htarget

/-- **Nothing else is read**, and nothing that is too long. -/
theorem reads_of_parse (h : parse text = .ok u) : size text ≤ maxSize ∧ Reads text u := by
  unfold parse at h
  split at h
  · simp at h
  · next hsize =>
    refine ⟨Nat.not_lt.1 hsize, ?_⟩
    split at h
    · simp at h
    · obtain rfl := Except.ok.inj h
      exact .target (by rfl)
    · next tail =>
      cases htarget : UriTarget.parse ('/' :: tail) with
      | error e => simp [htarget, Except.map] at h
      | ok target =>
        obtain rfl : ofTarget target = u := by simpa [htarget, Except.map] using h
        exact .target htarget
    · exact reads_of_parseFull h

end Reads

end Uri

end ProtocolGateway

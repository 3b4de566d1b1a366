import Mathlib.Data.List.Forall2
import ProtocolGateway.Log.Subscriber
import ProtocolGateway.Proofs.Log.Rules
import ProtocolGateway.Settings.Load

/-!
# The level of the log

The level of the settings is written into a filter twice, after the names of two targets, and it is
accepted if that makes a filter. So it need not be a level: what follows its first comma stands for
further directives, on whatever they name, and before that there may also be a number, the word for
nothing, or no character at all. Here is what it may be, and what is shown then. What no further
directive concerns is shown as if there were none.

## Main definitions

* `levelWord`, `furtherParts`: what a text has before its first comma, and between its commas.
* `Verbosity.Means`: what may stand after an equals sign.

## Main results

* `Directive.parse_named`: reading a directive with a target.
* `Filter.parse_filterText_eq_ok_iff`: reading the filter of a level.
* `accepted_levels`: which levels are accepted, and what is shown.
-/

namespace ProtocolGateway

/-! ### Texts -/

namespace Text

variable {c : Char} {start text : List Char}

/-- What comes before the first separator gets longer. -/
theorem splitOn_append_of_notMem (h : c ∉ start) {first : List Char} {more : List (List Char)}
    (hsplit : splitOn c text = first :: more) :
    splitOn c (start ++ text) = (start ++ first) :: more := by
  induction start with
  | nil => exact hsplit
  | cons d start ih =>
    rw [List.mem_cons, not_or] at h
    rw [List.cons_append, splitOn, if_neg (Ne.symm h.1), ih h.2]
    rfl

/-- The characters of four texts. With literals in their place, rewriting would evaluate them. -/
theorem toList_append₄ (a b c d : String) :
    (a ++ b ++ c ++ d).toList = (a.toList ++ b.toList) ++ (c.toList ++ d.toList) := by
  simp only [String.toList_append, List.append_assoc]

/-- White space is taken away only after the last other character. -/
theorem trimEnd_append (h : isBlank c = false) (text tail : List Char) :
    trimEnd (text ++ c :: tail) = text ++ c :: trimEnd tail := by
  have hkept : (c :: text.reverse).dropWhile isBlank = c :: text.reverse :=
    List.dropWhile_cons_of_neg (by rw [h]; exact Bool.false_ne_true)
  rw [trimEnd, trimEnd, List.reverse_append, List.reverse_cons, List.append_assoc,
    List.singleton_append, List.dropWhile_append, hkept]
  split
  · next hempty =>
    rw [List.isEmpty_iff.1 hempty]
    simp
  · simp

end Text

namespace Decimal

variable {bound n : Nat} {c : Char} {rest text : List Char}

theorem isDigit_iff : isDigit c = true ↔ 48 ≤ c.toNat ∧ c.toNat ≤ 57 := by
  rw [isDigit, digit?]
  split_ifs <;> simp <;> omega

/-- A numeral begins with a digit or a sign. -/
theorem head_of_below? (h : below? bound (c :: rest) = some n) : c = '+' ∨ isDigit c = true := by
  by_cases hsign : c = '+'
  · exact .inl hsign
  · right
    rw [below?] at h
    · obtain ⟨hread, -⟩ := Option.filter_eq_some_iff.1 h
      rw [ofDigits?, if_neg (by simp)] at hread
      split at hread
      · next hall => exact List.all_eq_true.1 hall c List.mem_cons_self
      · cases hread
    · exact fun rest heq => hsign (List.cons.inj heq).1

theorem toLower_eq_self (h : c = '+' ∨ isDigit c = true) : c.toLower = c := by
  rcases h with rfl | h
  · rfl
  · have hdigit := (isDigit_iff.1 h).2
    delta Char.toLower
    rw [dif_neg]
    rintro ⟨hupper, -⟩
    have hupper : 65 ≤ c.toNat := hupper
    omega

/-- A numeral is not a word, in whatever case. -/
theorem below?_eq_none_of_lower (d : Char) (rest : List Char)
    (h : Log.Verbosity.lower text = String.ofList (d :: rest))
    (hd : d ≠ '+' ∧ isDigit d = false) : below? bound text = none := by
  have hmap : text.map Char.toLower = d :: rest := String.ofList_injective h
  cases text with
  | nil => cases hmap
  | cons c text =>
    obtain ⟨hc, -⟩ := List.cons.inj hmap
    rw [Option.eq_none_iff_forall_ne_some]
    intro n hread
    have hhead := head_of_below? hread
    rw [← hc, toLower_eq_self hhead] at hd
    rcases hhead with hsign | hdigit
    · exact hd.1 hsign
    · exact Bool.false_ne_true (hd.2.symm.trans hdigit)

end Decimal

namespace Log

/-! ### Words for a verbosity -/

/-- What may stand after the equals sign of a directive, and which verbosity it means: nothing, the
name of a level or the word for showing nothing, both in any case, or a number up to five. -/
inductive Verbosity.Means : List Char → Verbosity → Prop where
  | nothing : Means [] (some .trace)
  | level {word : List Char} (l : Level) (h : lower word = l.word) : Means word (some l)
  | off {word : List Char} (h : lower word = "off") : Means word none
  | number {word : List Char} {v : Verbosity} (n : Nat)
    (hread : Decimal.below? Decimal.wordBound word = some n) (hrank : ofRank? n = some v) :
    Means word v

namespace Verbosity

variable {word : List Char} {v : Verbosity} {l : Level}

theorem below?_of_level (h : lower word = l.word) :
    Decimal.below? Decimal.wordBound word = none := by
  cases l with
  | error => exact Decimal.below?_eq_none_of_lower 'e' "rror".toList h (by decide)
  | warn => exact Decimal.below?_eq_none_of_lower 'w' "arn".toList h (by decide)
  | info => exact Decimal.below?_eq_none_of_lower 'i' "nfo".toList h (by decide)
  | debug => exact Decimal.below?_eq_none_of_lower 'd' "ebug".toList h (by decide)
  | trace => exact Decimal.below?_eq_none_of_lower 't' "race".toList h (by decide)

theorem below?_of_off (h : lower word = "off") :
    Decimal.below? Decimal.wordBound word = none :=
  Decimal.below?_eq_none_of_lower 'o' "ff".toList h (by decide)

theorem means_nil_iff : Means [] v ↔ v = some .trace := by
  constructor
  · intro h
    cases h with
    | nothing => rfl
    | level l h => cases l <;> exact absurd h (by decide)
    | off h => exact absurd h (by decide)
    | number n hread => cases hread
  · rintro rfl
    exact .nothing

theorem parse?_eq_some_iff (hword : word ≠ []) : parse? word = some v ↔ Means word v := by
  have hempty : ¬word.isEmpty = true := by rwa [List.isEmpty_iff]
  constructor
  · intro h
    rw [parse?] at h
    split at h
    · next n hread => exact .number n hread h
    · rw [if_neg hempty] at h
      split at h
      · next hoff =>
        obtain rfl := Option.some.inj h
        exact .off hoff
      · obtain ⟨l, hfind, rfl⟩ := Option.map_eq_some_iff.1 h
        have hsame := List.find?_some (p := fun l : Level => decide (l.word = lower word)) hfind
        exact .level l (of_decide_eq_true hsame).symm
  · intro h
    rw [parse?]
    cases h with
    | nothing => exact absurd rfl hword
    | level l h =>
      rw [below?_of_level h, if_neg hempty, h]
      cases l <;> rfl
    | off h =>
      rw [below?_of_off h, if_neg hempty, if_pos h]
    | number n hread hrank =>
      rw [hread]
      exact hrank

end Verbosity

/-! ### Directives with a target -/

/-- A text in which a target does not end. -/
def IsName (text : List Char) : Prop := ∀ c ∈ text, c ≠ '=' ∧ c ≠ '['

instance (text : List Char) : Decidable (IsName text) :=
  List.decidableBAll (fun c => c ≠ '=' ∧ c ≠ '[') text

namespace Directive

variable {whole name tail word target : List Char} {i since : Nat} {d d' : Directive} {c : Char}

theorem dropOctets?_append (start rest : List Char) :
    dropOctets? (octets start) (start ++ rest) = some rest := by
  induction start with
  | nil => cases rest <;> rfl
  | cons c start ih =>
    have hsize : octets (c :: start) = c.utf8Size + octets start := rfl
    have hpos := c.utf8Size_pos
    rw [List.cons_append, dropOctets?, hsize, if_neg (by omega), if_pos (Nat.le_add_right _ _),
      Nat.add_sub_cancel_left, ih]

theorem takeOctets?_append (start rest : List Char) :
    takeOctets? (octets start) (start ++ rest) = some start := by
  induction start with
  | nil => cases rest <;> rfl
  | cons c start ih =>
    have hsize : octets (c :: start) = c.utf8Size + octets start := rfl
    have hpos := c.utf8Size_pos
    rw [List.cons_append, takeOctets?, hsize, if_neg (by omega), if_pos (Nat.le_add_right _ _),
      Nat.add_sub_cancel_left, ih]
    rfl

/-- What is cut out where a character begins is what is there. -/
theorem sliceFrom_append (start rest : List Char) :
    sliceFrom (start ++ rest) (octets start) = .ok rest := by
  rw [sliceFrom, dropOctets?_append]

theorem slice_append (start rest : List Char) :
    slice (start ++ rest) 0 (octets start) = .ok start := by
  have hwhole : dropOctets? 0 (start ++ rest) = some (start ++ rest) :=
    dropOctets?_append [] (start ++ rest)
  rw [slice, hwhole, Option.bind_some, Nat.sub_zero, takeOctets?_append]

theorem parseFrom_level [Patterns] (tail : List Char) (i : Nat) :
    parseFrom whole i tail (.level since) d = finish whole (.level since) d := by
  induction tail generalizing i with
  | nil => rfl
  | cons c tail ih => exact ih (i + c.utf8Size)

/-- A target goes on up to the equals sign. -/
theorem parseFrom_name [Patterns] (hname : IsName name) (tail : List Char)
    (htarget : slice whole since (i + octets name) = .ok target) :
    parseFrom whole i (name ++ '=' :: tail) (.levelOrTarget since) d =
      finish whole (.level (i + octets name + 1)) { d with target := some target } := by
  induction name generalizing i with
  | nil =>
    have hslice : slice whole since i = .ok target := htarget
    rw [List.nil_append, parseFrom, step, if_pos rfl, hslice]
    exact parseFrom_level tail _
  | cons c name ih =>
    obtain ⟨⟨hequals, hbracket⟩, hname⟩ := List.forall_mem_cons.1 hname
    have hsize : i + octets (c :: name) = i + c.utf8Size + octets name :=
      (Nat.add_assoc ..).symm
    rw [hsize] at htarget ⊢
    rw [List.cons_append, parseFrom, step, if_neg hequals, if_neg hbracket]
    exact ih hname htarget

/-- **Ending a directive after an equals sign.** -/
theorem finish_level_eq_ok_iff (hword : sliceFrom whole since = .ok word) :
    finish whole (.level since) d = .ok d' ↔
      ∃ v, Verbosity.Means word v ∧ d' = { d with level := v } := by
  rw [finish, hword]
  cases word with
  | nil =>
    simp only [Verbosity.means_nil_iff, exists_eq_left]
    exact ⟨fun h => (Except.ok.inj h).symm, fun h => congrArg Except.ok h.symm⟩
  | cons c rest =>
    simp only [← Verbosity.parse?_eq_some_iff (List.cons_ne_nil c rest)]
    cases hparse : Verbosity.parse? (c :: rest) with
    | none => simp
    | some v => simp [eq_comm]

/-- **Reading a directive** with a target and an equals sign. -/
theorem parse_named [Patterns] (c : Char) (name : List Char) (hstart : startsName c = true)
    (hblank : Text.isBlank c = false) (hname : IsName (c :: name)) :
    parse (c :: name ++ '=' :: word) = .ok d' ↔
      ∃ v, Verbosity.Means word v ∧ d' = { level := v, target := some (c :: name) } := by
  let whole := c :: name ++ '=' :: word
  have htrim : Text.trim whole = c :: (name ++ '=' :: Text.trimEnd word) := by
    have hkept : Text.trimStart whole = whole :=
      List.dropWhile_cons_of_neg (by rw [hblank]; exact Bool.false_ne_true)
    rw [Text.trim, hkept]
    exact Text.trimEnd_append (by decide) (c :: name) word
  obtain ⟨⟨-, hbracket⟩, hrest⟩ := List.forall_mem_cons.1 hname
  have hfirst : parse whole = parseFrom whole (0 + c.utf8Size) (name ++ '=' :: Text.trimEnd word)
      (.levelOrTarget 0) {} := by
    rw [parse, htrim, parseFrom, step, if_neg hbracket, if_pos hstart]
  have htarget : slice whole 0 (0 + c.utf8Size + octets name) = .ok (c :: name) := by
    rw [Nat.zero_add]
    exact slice_append (c :: name) ('=' :: word)
  have hword : sliceFrom whole (0 + c.utf8Size + octets name + 1) = .ok word := by
    have hsize : octets (c :: name ++ ['=']) = 0 + c.utf8Size + octets name + 1 := by
      rw [octets, List.map_append, total_append, Nat.zero_add]
      rfl
    rw [← hsize, show whole = (c :: name ++ ['=']) ++ word by simp [whole]]
    exact sliceFrom_append _ word
  rw [hfirst, parseFrom_name hrest _ htarget, finish_level_eq_ok_iff hword]

end Directive

/-! ### Reading several directives -/

section mapM

variable {α β ε : Type} {f : α → Except ε β} {as : List α} {bs : List β}

theorem mapM_cons_eq_ok_iff {a : α} : (a :: as).mapM f = .ok bs ↔
    ∃ b rest, f a = .ok b ∧ as.mapM f = .ok rest ∧ bs = b :: rest := by
  rw [List.mapM_cons]
  cases f a with
  | error e => simp [bind, Except.bind]
  | ok b =>
    cases as.mapM f with
    | error e => simp [bind, Except.bind]
    | ok rest => simp [bind, Except.bind, pure, Except.pure, eq_comm]

theorem mapM_append_eq_ok_iff {as' : List α} : (as ++ as').mapM f = .ok bs ↔
    ∃ first rest, as.mapM f = .ok first ∧ as'.mapM f = .ok rest ∧ bs = first ++ rest := by
  induction as generalizing bs with
  | nil => simp [pure, Except.pure]
  | cons a as ih =>
    rw [List.cons_append, mapM_cons_eq_ok_iff]
    simp only [ih, mapM_cons_eq_ok_iff]
    aesop

theorem exists_mapM_eq_ok_iff : (∃ bs, as.mapM f = .ok bs) ↔ ∀ a ∈ as, ∃ b, f a = .ok b := by
  induction as with
  | nil => simp [pure, Except.pure]
  | cons a as ih =>
    rw [List.forall_mem_cons, ← ih]
    simp only [mapM_cons_eq_ok_iff]
    aesop

theorem mem_of_mapM_eq_ok (h : as.mapM f = .ok bs) {b : β} (hb : b ∈ bs) :
    ∃ a ∈ as, f a = .ok b := by
  induction as generalizing bs with
  | nil =>
    cases h
    cases hb
  | cons a as ih =>
    obtain ⟨first, rest, hfirst, hrest, rfl⟩ := mapM_cons_eq_ok_iff.1 h
    rcases List.mem_cons.1 hb with rfl | hb
    · exact ⟨a, List.mem_cons_self, hfirst⟩
    · obtain ⟨a', ha', hread⟩ := ih hrest hb
      exact ⟨a', List.mem_cons_of_mem a ha', hread⟩

end mapM

/-! ### The filter of a level -/

/-- The targets that the filter of a level names. -/
def filterTargets : List (List Char) := ["service_gateway".toList, "tower_http".toList]

/-- What a text has before its first comma. -/
def levelWord (level : String) : List Char := (Text.splitOn ',' level.toList).headD []

/-- What a text has between its commas and after them, as far as that is not empty. -/
def furtherParts (level : String) : List (List Char) :=
  (Text.splitOn ',' level.toList).tail.filter (!·.isEmpty)

variable {level : String}

/-- The directives of the filter of a level: one for each target, with the further ones after
either. -/
theorem parts_filterText (level : String) :
    Filter.parts (filterText level).toList =
      ("service_gateway".toList ++ '=' :: levelWord level) :: furtherParts level ++
        ("tower_http".toList ++ '=' :: levelWord level) :: furtherParts level := by
  obtain ⟨first, more, hsplit⟩ :=
    List.exists_cons_of_ne_nil (Text.splitOn_ne_nil ',' level.toList)
  have hword : levelWord level = first := by rw [levelWord, hsplit]; rfl
  have hmore : furtherParts level = more.filter (!·.isEmpty) := by rw [furtherParts, hsplit]; rfl
  have htext : (filterText level).toList =
      ("service_gateway=".toList ++ level.toList) ++ ',' ::
        ("tower_http=".toList ++ level.toList) :=
    Text.toList_append₄ "service_gateway=" level ",tower_http=" level
  rw [Filter.parts, htext, Text.splitOn_append, Text.splitOn_append_of_notMem (by decide) hsplit,
    Text.splitOn_append_of_notMem (by decide) hsplit, List.filter_append, hword, hmore]
  rfl

/-- The directive of a target. -/
def levelDirective (v : Verbosity) (target : List Char) : Directive :=
  { level := v, target := some target }

theorem parse_target [Patterns] {target word : List Char} (htarget : target ∈ filterTargets)
    {d : Directive} :
    Directive.parse (target ++ '=' :: word) = .ok d ↔
      ∃ v, Verbosity.Means word v ∧ d = levelDirective v target := by
  rcases List.mem_cons.1 htarget with rfl | htarget
  · exact Directive.parse_named 's' "ervice_gateway".toList (by decide) (by decide) (by decide)
  · obtain rfl := List.mem_singleton.1 htarget
    exact Directive.parse_named 't' "ower_http".toList (by decide) (by decide) (by decide)

/-- A word means one verbosity at most. -/
theorem Verbosity.Means.unique {word : List Char} {v v' : Verbosity} (h : Means word v)
    (h' : Means word v') : v = v' := by
  by_cases hword : word = []
  · rw [hword, means_nil_iff] at h h'
    rw [h, h']
  · rw [← parse?_eq_some_iff hword] at h h'
    exact Option.some.inj (h.symm.trans h')

/-- **Reading the filter of a level.** -/
theorem parse_filterText_eq_ok_iff [Patterns] {filter : Filter} :
    Filter.parse (filterText level).toList = .ok filter ↔
      ∃ v further, Verbosity.Means (levelWord level) v ∧
        (furtherParts level).mapM Directive.parse = .ok further ∧
        filter = .ofDirectives (levelDirective v "service_gateway".toList :: further ++
          levelDirective v "tower_http".toList :: further) := by
  have hgateway : "service_gateway".toList ∈ filterTargets := List.mem_cons_self
  have hlayers : "tower_http".toList ∈ filterTargets := List.mem_cons_of_mem _ List.mem_cons_self
  have hmap (read : Except FilterError (List Directive)) :
      read.map Filter.ofDirectives = .ok filter ↔
        ∃ directives, read = .ok directives ∧ filter = .ofDirectives directives := by
    cases read with
    | error e => simp [Except.map]
    | ok directives => simp [Except.map, eq_comm]
  rw [Filter.parse, parts_filterText, hmap]
  constructor
  · rintro ⟨directives, hread, rfl⟩
    obtain ⟨front, back, hfront, hback, rfl⟩ := mapM_append_eq_ok_iff.1 hread
    obtain ⟨d, further, hd, hfurther, rfl⟩ := mapM_cons_eq_ok_iff.1 hfront
    obtain ⟨d', further', hd', hfurther', rfl⟩ := mapM_cons_eq_ok_iff.1 hback
    obtain rfl : further = further' := Except.ok.inj (hfurther.symm.trans hfurther')
    obtain ⟨v, hmeans, rfl⟩ := (parse_target hgateway).1 hd
    obtain ⟨v', hmeans', rfl⟩ := (parse_target hlayers).1 hd'
    obtain rfl := hmeans.unique hmeans'
    exact ⟨v, further, hmeans, hfurther, rfl⟩
  · rintro ⟨v, further, hmeans, hfurther, rfl⟩
    have hread {target : List Char} (htarget : target ∈ filterTargets) :
        ((target ++ '=' :: levelWord level) :: furtherParts level).mapM Directive.parse =
          .ok (levelDirective v target :: further) :=
      mapM_cons_eq_ok_iff.2 ⟨_, _, (parse_target htarget).2 ⟨v, hmeans, rfl⟩, hfurther, rfl⟩
    exact ⟨_, mapM_append_eq_ok_iff.2 ⟨_, _, hread hgateway, hread hlayers, rfl⟩, rfl⟩

/-- A level is accepted if it makes a filter. -/
theorem levelFault?_eq_none_iff_exists [Patterns] :
    Settings.levelFault? level = none ↔ ∃ filter, Subscriber.filterOf level = .ok filter := by
  rw [Settings.levelFault?, Subscriber.filterOf]
  cases Filter.parse (filterText level).toList with
  | error e => simp
  | ok filter => simp

theorem levelFault?_eq_none_iff [Patterns] :
    Settings.levelFault? level = none ↔
      (∃ v, Verbosity.Means (levelWord level) v) ∧
        ∀ part ∈ furtherParts level, ∃ d, Directive.parse part = .ok d := by
  rw [levelFault?_eq_none_iff_exists, ← exists_mapM_eq_ok_iff]
  simp only [Subscriber.filterOf, parse_filterText_eq_ok_iff]
  constructor
  · rintro ⟨filter, v, further, hmeans, hfurther, -⟩
    exact ⟨⟨v, hmeans⟩, further, hfurther⟩
  · rintro ⟨⟨v, hmeans⟩, further, hfurther⟩
    exact ⟨_, v, further, hmeans, hfurther, rfl⟩

/-- **What no further directive concerns** is shown if it has one of the two targets and the level
lets it through. -/
theorem shows_of_not_concerned [Patterns] {filter : Filter} {v : Verbosity} {event : Metadata}
    (hmeans : Verbosity.Means (levelWord level) v)
    (hfilter : Subscriber.filterOf level = .ok filter)
    (hfurther : ∀ part ∈ furtherParts level, ∀ d, Directive.parse part = .ok d →
      d.concerns event = false) :
    filter.shows event = true ↔
      (∃ target ∈ filterTargets, target <+: event.target) ∧ v.shows event.level = true := by
  obtain ⟨v', further, hmeans', hread, rfl⟩ := parse_filterText_eq_ok_iff.1 hfilter
  obtain rfl := hmeans'.unique hmeans
  have hnone : ∀ d ∈ further, d.concerns event = false := by
    intro d hd
    obtain ⟨part, hpart, hparse⟩ := mem_of_mapM_eq_ok hread hd
    exact hfurther part hpart d hparse
  have hown (target : List Char) :
      (levelDirective v' target).concerns event = target.isPrefixOf event.target := by
    simp [Directive.concerns, Directive.isStatic, Rule.ofDirective, Rule.concerns, levelDirective]
  have hany : (levelDirective v' "service_gateway".toList :: further ++
      levelDirective v' "tower_http".toList :: further).any (·.concerns event) = true ↔
      ∃ target ∈ filterTargets, target <+: event.target := by
    have hfalse : further.any (·.concerns event) = false := by
      rw [List.any_eq_false]
      exact fun d hd => Bool.not_eq_true _ ▸ hnone d hd
    rw [List.any_append, List.any_cons, List.any_cons, hown, hown, hfalse, Bool.or_false,
      Bool.or_false, Bool.or_eq_true, List.isPrefixOf_iff_prefix, List.isPrefixOf_iff_prefix]
    simp only [filterTargets, List.mem_cons, List.not_mem_nil, or_false, exists_eq_or_imp,
      exists_eq_left]
  rw [Filter.shows_ofDirectives (v := v'), Bool.and_eq_true, hany]
  intro d hd hconcerns
  rcases List.mem_append.1 hd with hd | hd
  · rcases List.mem_cons.1 hd with rfl | hd
    · rfl
    · exact absurd hconcerns (by rw [hnone d hd]; exact Bool.false_ne_true)
  · rcases List.mem_cons.1 hd with rfl | hd
    · rfl
    · exact absurd hconcerns (by rw [hnone d hd]; exact Bool.false_ne_true)

/-- The name of a level has no comma. -/
theorem parts_of_level {l : Level} (h : Verbosity.lower level.toList = l.word) :
    levelWord level = level.toList ∧ furtherParts level = [] := by
  have hcomma : ',' ∉ level.toList := by
    intro hmem
    have hword : ',' ∈ l.word.toList := by
      rw [← h, Verbosity.lower, String.toList_ofList]
      exact List.mem_map.2 ⟨',', hmem, rfl⟩
    revert hword
    cases l <;> decide
  rw [levelWord, furtherParts, Text.splitOn_of_notMem hcomma]
  exact ⟨rfl, rfl⟩

/-- The name of a level is accepted. -/
theorem levelFault?_of_level [Patterns] (level : String) (l : Level)
    (h : Verbosity.lower level.toList = l.word) : Settings.levelFault? level = none := by
  obtain ⟨hword, hfurther⟩ := parts_of_level h
  refine levelFault?_eq_none_iff.2 ⟨⟨some l, hword ▸ .level l h⟩, ?_⟩
  rw [hfurther]
  exact fun part hpart => absurd hpart List.not_mem_nil

/-- **Accepted levels.** A level is accepted exactly if what is before its first comma is a word for
a verbosity, or nothing, and each further part is a directive. What no further part concerns is then
shown exactly if it has one of the two targets and the verbosity lets it through. If the level is
the name of a level, in any case, it is accepted and there are no further parts. -/
theorem accepted_levels [Patterns] (level : String) :
    (Settings.levelFault? level = none ↔
      (∃ v, Verbosity.Means (levelWord level) v) ∧
        ∀ part ∈ furtherParts level, ∃ d, Directive.parse part = .ok d) ∧
    (∀ (v : Verbosity) (filter : Filter) (event : Metadata),
      Verbosity.Means (levelWord level) v → Subscriber.filterOf level = .ok filter →
      (∀ part ∈ furtherParts level, ∀ d, Directive.parse part = .ok d →
        d.concerns event = false) →
      (filter.shows event = true ↔
        (∃ target ∈ filterTargets, target <+: event.target) ∧ v.shows event.level = true)) ∧
    ∀ l : Level, Verbosity.lower level.toList = l.word →
      Settings.levelFault? level = none ∧ Verbosity.Means (levelWord level) (some l) ∧
        furtherParts level = [] := by
  refine ⟨levelFault?_eq_none_iff, fun _ _ _ => shows_of_not_concerned, fun l hl => ?_⟩
  obtain ⟨hword, hfurther⟩ := parts_of_level hl
  exact ⟨levelFault?_of_level level l hl, hword ▸ .level l hl, hfurther⟩

/-- With a warning as the level, in whatever case it is written, only what the program itself and
the layers around its routes have to say is shown, and only from warnings up. -/
theorem accepted_levels_warn :
    ∃ filter, Subscriber.filterOf "Warn" = .ok filter ∧
      ∀ event : Metadata, filter.shows event = true ↔
        (∃ target ∈ filterTargets, target <+: event.target) ∧
          Verbosity.shows (some .warn) event.level = true := by
  obtain ⟨filter, hfilter⟩ : ∃ filter, Subscriber.filterOf "Warn" = .ok filter := ⟨_, rfl⟩
  obtain ⟨-, hshows, hlevels⟩ := accepted_levels "Warn"
  obtain ⟨-, hmeans, hfurther⟩ := hlevels .warn (by decide)
  refine ⟨filter, hfilter, fun event => hshows _ filter event hmeans hfilter ?_⟩
  rw [hfurther]
  exact fun part hpart => absurd hpart List.not_mem_nil

/-- Not only the names of levels are accepted: so are the word for showing nothing, no text at all,
a number, and further directives. By a file with the last of them everything of another target is
shown. -/
theorem accepted_levels_others :
    (∀ level ∈ ["off", "", "3", "info,other=trace"],
      Settings.levelFault? level = none ∧
        ∀ l : Level, Verbosity.lower level.toList ≠ l.word) ∧
    ∃ s, Settings.load
        (.file (bytesOf "[observability]\nlog_level = \"info,other=trace\"")) = .ok s ∧
      ∃ subscriber, Subscriber.ofSettings none s = .ok subscriber ∧
        subscriber.filter.shows ⟨.trace, "other".toList, []⟩ = true := by
  refine ⟨?_, { observability := { logLevel := "info,other=trace" } }, by decide +kernel,
    _, rfl, by decide +kernel⟩
  intro level hlevel
  simp only [List.mem_cons, List.not_mem_nil, or_false] at hlevel
  rcases hlevel with rfl | rfl | rfl | rfl
  · exact ⟨by decide +kernel, fun l => by cases l <;> decide⟩
  · exact ⟨by decide +kernel, fun l => by cases l <;> decide⟩
  · exact ⟨by decide +kernel, fun l => by cases l <;> decide⟩
  · exact ⟨by decide +kernel, fun l => by cases l <;> decide⟩

end Log

end ProtocolGateway

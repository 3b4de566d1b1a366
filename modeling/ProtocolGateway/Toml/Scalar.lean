import ProtocolGateway.Text.Blank
import ProtocolGateway.Text.Decimal
import ProtocolGateway.Text.Shortest
import ProtocolGateway.Toml.Value

/-!
# TOML scalars

Strings, numbers, moments and keys. Each reader takes the text from its first character on and
gives what it read together with what is left; `none` means that the text cannot start like that.
-/

namespace ProtocolGateway.Toml

/-- Blanks between the tokens of a line. -/
def isSpace (c : Char) : Bool := c == ' ' || c == '\t'

/-- The text after its leading blanks. -/
def skipSpace (text : List Char) : List Char := text.dropWhile isSpace

/-- The text after the end of a line, if it starts with one. -/
def newline? : List Char → Option (List Char)
  | '\n' :: rest => some rest
  | '\r' :: '\n' :: rest => some rest
  | _ => none

/-- Whether the character may stand in a comment. -/
def isCommentChar (c : Char) : Bool := c == '\t' || (0x20 ≤ c.toNat && c.toNat != 0x7F)

/-- The text after a comment, which ends before the end of its line. -/
def skipComment : List Char → List Char
  | '#' :: rest => rest.dropWhile isCommentChar
  | text => text

/-- The text after blanks, a comment and the end of the line or of the text. -/
def lineEnd? (text : List Char) : Option (List Char) :=
  match skipComment (skipSpace text) with
  | [] => some []
  | rest => newline? rest

/-! ### Strings -/

/-- The character that a value of so many hexadecimal digits stands for. -/
def scalar? (digits : List Char) : Option Char := do
  let n ← Decimal.ofDigits? 16 digits
  if n.isValidChar then return Char.ofNat n else none

/-- The character after a backslash. -/
def escape? : List Char → Option (Char × List Char)
  | 'b' :: rest => some ('\x08', rest)
  | 't' :: rest => some ('\t', rest)
  | 'n' :: rest => some ('\n', rest)
  | 'f' :: rest => some ('\x0c', rest)
  | 'r' :: rest => some ('\r', rest)
  | '"' :: rest => some ('"', rest)
  | '\\' :: rest => some ('\\', rest)
  | 'u' :: rest =>
    if (rest.take 4).length = 4 then (scalar? (rest.take 4)).map (·, rest.drop 4) else none
  | 'U' :: rest =>
    if (rest.take 8).length = 8 then (scalar? (rest.take 8)).map (·, rest.drop 8) else none
  | _ => none

theorem length_escape?_le {text rest : List Char} {c : Char}
    (h : escape? text = some (c, rest)) : rest.length ≤ text.length := by
  have named {d : Char} {r : List Char} (h : some (d, r) = some (c, rest)) :
      rest.length ≤ r.length + 1 := by
    cases h; exact Nat.le_succ _
  have numbered {n : Nat} {r : List Char} {o : Option Char}
      (h : (if (r.take n).length = n then o.map (·, r.drop n) else none) = some (c, rest)) :
      rest.length ≤ r.length + 1 := by
    split at h
    · obtain ⟨_, -, hc⟩ := Option.map_eq_some_iff.1 h
      cases hc
      exact Nat.le_succ_of_le (by simp)
    · cases h
  unfold escape? at h
  split at h
  all_goals first | exact named h | exact numbered h | cases h

/-- A line break within quotes, and all blanks and breaks after it, if a backslash precedes it. -/
def foldedBreak? (text : List Char) : Option (List Char) :=
  (newline? (skipSpace text)).map fun rest => rest.dropWhile fun c =>
    isSpace c || c == '\n' || c == '\r'

theorem length_foldedBreak?_le {text rest : List Char} (h : foldedBreak? text = some rest) :
    rest.length ≤ text.length := by
  obtain ⟨after, hafter, rfl⟩ := Option.map_eq_some_iff.1 h
  have h₁ : after.length ≤ (skipSpace text).length := by
    unfold newline? at hafter
    split at hafter <;> simp at hafter
    · subst hafter; simp_all
    · subst hafter; simp_all; omega
  have h₂ : (skipSpace text).length ≤ text.length := (List.dropWhile_sublist _).length_le
  have h₃ := (List.dropWhile_sublist (p := fun c => isSpace c || c == '\n' || c == '\r')
    (l := after)).length_le
  omega

/-- Reads a quoted string of one line after its opening quote, given the characters so far in
reverse. -/
def basic (done : List Char) (text : List Char) : Option (List Char × List Char) :=
  match text with
  | [] => none
  | '"' :: rest => some (done.reverse, rest)
  | '\\' :: rest =>
    match h : escape? rest with
    | none => none
    | some (c, after) =>
      have : after.length < rest.length + 1 := Nat.lt_succ_of_le (length_escape?_le h)
      basic (c :: done) after
  | c :: rest => if isCommentChar c then basic (c :: done) rest else none
termination_by text.length

/-- Reads an apostrophe-quoted string of one line after its opening quote. -/
def literal (done : List Char) : List Char → Option (List Char × List Char)
  | [] => none
  | '\'' :: rest => some (done.reverse, rest)
  | c :: rest => if isCommentChar c then literal (c :: done) rest else none

/-- How a string of several lines goes on at a run of quotes: up to two belong to the string, three
end it, and one or two may precede those three. -/
def closing? (quote : Char) (text : List Char) : Option (List Char × Option (List Char)) :=
  match (text.takeWhile (· == quote)).length with
  | 0 => none
  | 1 => some ([quote], none)
  | 2 => some ([quote, quote], none)
  | 3 => some ([], some (text.drop 3))
  | 4 => some ([quote], some (text.drop 4))
  | _ => some ([quote, quote], some (text.drop 5))

/-- Reads a string of several lines after its opening quotes. A break within it is one line feed;
escapes are understood between double quotes only. -/
def multiline (quote : Char) (done : List Char) (text : List Char) :
    Option (List Char × List Char) :=
  match text with
  | [] => none
  | c :: rest =>
    if c = quote then
      match closing? quote (c :: rest) with
      | some (kept, some after) => some ((kept ++ done).reverse, after)
      | some (kept, none) =>
        have : ((c :: rest).drop (max 1 kept.length)).length < (c :: rest).length := by
          rw [List.length_drop, List.length_cons]; omega
        multiline quote (kept ++ done) ((c :: rest).drop (max 1 kept.length))
      | none => none
    else if c = '\\' && quote == '"' then
      match h : foldedBreak? rest with
      | some after =>
        have : after.length < rest.length + 1 := Nat.lt_succ_of_le (length_foldedBreak?_le h)
        multiline quote done after
      | none =>
        match h : escape? rest with
        | none => none
        | some (d, after) =>
          have : after.length < rest.length + 1 := Nat.lt_succ_of_le (length_escape?_le h)
          multiline quote (d :: done) after
    else if c = '\n' then multiline quote ('\n' :: done) rest
    else if c = '\r' then
      match rest with
      | '\n' :: after => multiline quote ('\n' :: done) after
      | _ => none
    else if isCommentChar c then multiline quote (c :: done) rest
    else none
termination_by text.length

/-- Reads a string of any of the four forms. -/
def string? : List Char → Option (List Char × List Char)
  | '"' :: '"' :: '"' :: rest => multiline '"' [] ((newline? rest).getD rest)
  | '"' :: rest => basic [] rest
  | '\'' :: '\'' :: '\'' :: rest => multiline '\'' [] ((newline? rest).getD rest)
  | '\'' :: rest => literal [] rest
  | _ => none

/-! ### Numbers -/

/-- Whether underscores stand only between digits. -/
def underscoresBetween : List Char → Bool
  | [] => true
  | ['_'] => false
  | '_' :: '_' :: _ => false
  | _ :: rest => underscoresBetween rest

/-- Reads a run of digits, in which single underscores may stand between digits, without those
underscores. -/
def digits? (base : Nat) (text : List Char) : Option (List Char × List Char) :=
  let inRun (c : Char) : Bool := c == '_' || (Decimal.digit? base c).isSome
  let run := text.takeWhile inRun
  if run.isEmpty || run.head? == some '_' || !underscoresBetween run then none
  else some (run.filter (· != '_'), text.dropWhile inRun)

/-- The sign before a number, and the rest. -/
def sign : List Char → Bool × List Char
  | '+' :: rest => (false, rest)
  | '-' :: rest => (true, rest)
  | text => (false, text)

/-- Whether an integer fits a signed word. -/
def isWord (n : Int) : Bool := -9223372036854775808 ≤ n && n < 9223372036854775808

/-- Reads an unsigned whole number without a superfluous zero at its start. -/
def whole? (text : List Char) : Option (List Char × List Char) :=
  match text with
  | '0' :: rest => some (['0'], rest)
  | _ => digits? 10 text

/-- Reads a whole number in a base other than ten after its mark. -/
def based? (base : Nat) (text : List Char) : Option (Value × List Char) := do
  let (ds, rest) ← digits? base text
  let n ← Decimal.ofDigits? base ds
  if isWord n then return (.integer n, rest) else none

/-- Reads an integer. -/
def integer? (text : List Char) : Option (Value × List Char) :=
  match text with
  | '0' :: 'x' :: rest => based? 16 rest
  | '0' :: 'o' :: rest => based? 8 rest
  | '0' :: 'b' :: rest => based? 2 rest
  | _ => do
    let (negative, text) := sign text
    let (ds, rest) ← whole? text
    let n ← Decimal.ofDigits? 10 ds
    let n : Int := if negative then -n else n
    if isWord n then return (.integer n, rest) else none

/-- Reads the exponent of a number after its letter. -/
def exponent? (text : List Char) : Option (Int × List Char) := do
  let (negative, text) := sign text
  let (ds, rest) ← digits? 10 text
  let n ← Decimal.ofDigits? 10 ds
  return (if negative then -n else n, rest)

/-- Whether the number is too large for a binary number of 64 bits. -/
def overflows (digits : Nat) (exponent : Int) : Bool := (Shortest.nearest? digits exponent).isNone

/-- Reads a number with a fraction, an exponent or both, or one of the words for infinity and for
no number. A number that is too large is none; one too far below zero counts as infinite. -/
def float? (text : List Char) : Option (Value × List Char) := do
  let (negative, text) := sign text
  match text with
  | 'i' :: 'n' :: 'f' :: rest => return (.float (.infinite negative), rest)
  | 'n' :: 'a' :: 'n' :: rest => return (.float .notANumber, rest)
  | _ =>
    let (ds, rest) ← whole? text
    let (places, afterPlaces) ← match rest with
      | '.' :: after => digits? 10 after
      | _ => some ([], rest)
    let (e, left) ← match afterPlaces with
      | 'e' :: after => exponent? after
      | 'E' :: after => exponent? after
      | _ => if places.isEmpty then none else some (0, afterPlaces)
    let n ← Decimal.ofDigits? 10 (ds ++ places)
    let exponent := e - places.length
    if !negative && overflows n exponent then none
    else return (.float (.finite negative n exponent), left)

/-! ### Moments -/

/-- Reads exactly so many digits as a number within bounds. -/
def fixed? (count low high : Nat) (text : List Char) : Option (Nat × List Char) := do
  let n ← Decimal.ofDigits? 10 (text.take count)
  if (text.take count).length = count && low ≤ n && n ≤ high then return (n, text.drop count)
  else none

/-- The text after the character `c`. -/
def after? (c : Char) : List Char → Option (List Char)
  | [] => none
  | d :: rest => if d = c then some rest else none

/-- The number of days of a month. -/
def daysIn (year month : Nat) : Nat :=
  if month = 2 then
    if year % 4 = 0 && (year % 100 ≠ 0 || year % 400 = 0) then 29 else 28
  else if month = 4 || month = 6 || month = 9 || month = 11 then 30
  else 31

/-- The text after a date. -/
def date? (text : List Char) : Option (List Char) := do
  let (year, text) ← fixed? 4 0 9999 text
  let (month, text) ← fixed? 2 1 12 (← after? '-' text)
  let (_, text) ← fixed? 2 1 (daysIn year month) (← after? '-' text)
  return text

/-- The text after a time of day. -/
def time? (text : List Char) : Option (List Char) := do
  let (_, text) ← fixed? 2 0 23 text
  let (_, text) ← fixed? 2 0 59 (← after? ':' text)
  let (_, text) ← fixed? 2 0 60 (← after? ':' text)
  match text with
  | '.' :: rest =>
    if (rest.takeWhile Decimal.isDigit).isEmpty then none
    else return rest.dropWhile Decimal.isDigit
  | _ => return text

/-- The text after the distance from universal time, which may be missing. -/
def offset? (text : List Char) : Option (List Char) :=
  let signed (rest : List Char) : Option (List Char) := do
    let (_, rest) ← fixed? 2 0 23 rest
    let (_, rest) ← fixed? 2 0 59 (← after? ':' rest)
    return rest
  match text with
  | 'Z' :: rest => some rest
  | 'z' :: rest => some rest
  | '+' :: rest => signed rest
  | '-' :: rest => signed rest
  | _ => some text

/-- Whether the text starts with the two digits of an hour and a colon. -/
def startsTime (text : List Char) : Bool :=
  match text with
  | a :: b :: ':' :: _ => Decimal.isDigit a && Decimal.isDigit b
  | _ => false

/-- Whether the text starts with the four digits of a year and a dash. -/
def startsDate (text : List Char) : Bool :=
  (text.take 4).length = 4 && (text.take 4).all Decimal.isDigit && (text.drop 4).head? == some '-'

/-- Reads a date with or without a time of day. -/
def dateAndTime? (text : List Char) : Option (Value × List Char) := do
  let rest ← date? text
  match rest with
  | c :: after =>
    if (c == 'T' || c == 't' || c == ' ') && startsTime after then
      return (.moment, ← offset? (← time? after))
    else return (.moment, rest)
  | [] => return (.moment, [])

/-- Reads a number or a moment. -/
def number? (text : List Char) : Option (Value × List Char) :=
  if startsDate text then dateAndTime? text
  else if startsTime text then (time? text).map fun rest => (.moment, rest)
  else match float? text with
    | some r => some r
    | none => integer? text

/-! ### Keys -/

/-- Whether the character may stand in a key without quotes. -/
def isBareChar (c : Char) : Bool := c.isAlphanum || c == '-' || c == '_'

/-- Reads one part of a key. -/
def simpleKey? : List Char → Option (List Char × List Char)
  | '"' :: rest => basic [] rest
  | '\'' :: rest => literal [] rest
  | text =>
    let bare := text.takeWhile isBareChar
    if bare.isEmpty then none else some (bare, text.dropWhile isBareChar)

/-- Reads a key of several parts with dots between them and blanks around them, taking at most
`limit` parts. -/
def key? : (limit : Nat) → List Char → Option (List (List Char) × List Char)
  | 0, _ => none
  | limit + 1, text => do
    let (part, rest) ← simpleKey? (skipSpace text)
    match skipSpace rest with
    | '.' :: after =>
      let (parts, left) ← key? limit after
      return (part :: parts, left)
    | left => return ([part], left)

end ProtocolGateway.Toml

/-!
# White space

The white space of Unicode and the trimming of texts. Formatted log lines lose it at their end, and
filter directives ignore it around them.
-/

namespace ProtocolGateway.Text

/-- White space: the characters with the Unicode property of that name. -/
def isBlank (c : Char) : Bool :=
  let n := c.toNat
  (0x09 ≤ n && n ≤ 0x0D) || n == 0x20 || n == 0x85 || n == 0xA0 || n == 0x1680 ||
    (0x2000 ≤ n && n ≤ 0x200A) || n == 0x2028 || n == 0x2029 || n == 0x202F || n == 0x205F ||
    n == 0x3000

/-- The text without the white space at its start. -/
def trimStart (text : List Char) : List Char := text.dropWhile isBlank

/-- The text without the white space at its end. -/
def trimEnd (text : List Char) : List Char := (text.reverse.dropWhile isBlank).reverse

/-- The text without the white space at either end. -/
def trim (text : List Char) : List Char := trimEnd (trimStart text)

/-- The text without the run of `c` at its end. -/
def trimEndOf (c : Char) (text : List Char) : List Char :=
  (text.reverse.dropWhile (· == c)).reverse

/-- The parts of a text between the occurrences of `c`. There is always one part more than there
are occurrences. -/
def splitOn (c : Char) : List Char → List (List Char)
  | [] => [[]]
  | d :: rest =>
    if d = c then [] :: splitOn c rest
    else match splitOn c rest with
      | [] => [[d]]
      | part :: parts => (d :: part) :: parts

theorem splitOn_ne_nil (c : Char) (text : List Char) : splitOn c text ≠ [] := by
  cases text with
  | nil => simp [splitOn]
  | cons d text =>
    rw [splitOn]
    split
    · simp
    · split <;> simp

theorem splitOn_append (c : Char) (text tail : List Char) :
    splitOn c (text ++ c :: tail) = splitOn c text ++ splitOn c tail := by
  induction text with
  | nil => simp [splitOn]
  | cons d text ih =>
    rw [List.cons_append, splitOn, splitOn, ih]
    by_cases hd : d = c
    · rw [if_pos hd, if_pos hd, List.cons_append]
    · rw [if_neg hd, if_neg hd]
      obtain ⟨part, parts, hparts⟩ := List.exists_cons_of_ne_nil (splitOn_ne_nil c text)
      rw [hparts]
      rfl

/-- A text without `c` is one part. -/
theorem splitOn_of_notMem {c : Char} {text : List Char} (h : c ∉ text) :
    splitOn c text = [text] := by
  induction text with
  | nil => rfl
  | cons d text ih =>
    rw [List.mem_cons, not_or] at h
    rw [splitOn, if_neg (Ne.symm h.1), ih h.2]

/-- The text after `start`, if it starts with it. -/
def dropStart? {α : Type} [DecidableEq α] : List α → List α → Option (List α)
  | [], text => some text
  | _ :: _, [] => none
  | a :: start, b :: text => if a = b then dropStart? start text else none

theorem dropStart?_eq_some_iff {α : Type} [DecidableEq α] {start text rest : List α} :
    dropStart? start text = some rest ↔ text = start ++ rest := by
  induction start generalizing text with
  | nil => simp [dropStart?, eq_comm]
  | cons a start ih =>
    cases text with
    | nil => simp [dropStart?]
    | cons b text =>
      by_cases h : a = b
      · simp [dropStart?, h, ih]
      · simp [dropStart?, h, Ne.symm h]

end ProtocolGateway.Text

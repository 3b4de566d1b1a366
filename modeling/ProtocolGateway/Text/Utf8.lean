/-!
# Octets and UTF-8

Connections, files and request bodies are strings of octets; paths, prefixes and log lines are
texts, kept as lists of characters. This file turns one into the other.

## Main definitions

* `Bytes`: a string of octets.
* `Utf8.encode`: the octets of a text.
* `Utf8.decode?`: the text of well-formed octets.
* `Utf8.decodeLossy`: the text of any octets, with U+FFFD in place of each ill-formed piece.
-/

namespace ProtocolGateway

/-- A string of octets, as it travels on a connection or lies in a file. -/
abbrev Bytes := List UInt8

namespace Utf8

/-- The octets of a text. -/
def encode (text : List Char) : Bytes :=
  text.flatMap String.utf8EncodeChar

/-- What the first octet of a longer sequence announces. -/
structure Lead where
  /-- How many octets follow. -/
  following : Nat
  /-- The least value the octet right after it may have. -/
  low : UInt8
  /-- The greatest value the octet right after it may have. -/
  high : UInt8
  /-- The bits of the scalar value it carries. -/
  payload : Nat

/-- The ranges exclude overlong forms, surrogates and values above U+10FFFF at the second octet. -/
def lead? (b : UInt8) : Option Lead :=
  if 0xC2 ≤ b ∧ b ≤ 0xDF then some ⟨1, 0x80, 0xBF, b.toNat % 32⟩
  else if b = 0xE0 then some ⟨2, 0xA0, 0xBF, 0⟩
  else if b = 0xED then some ⟨2, 0x80, 0x9F, 13⟩
  else if 0xE1 ≤ b ∧ b ≤ 0xEF then some ⟨2, 0x80, 0xBF, b.toNat % 16⟩
  else if b = 0xF0 then some ⟨3, 0x90, 0xBF, 0⟩
  else if 0xF1 ≤ b ∧ b ≤ 0xF3 then some ⟨3, 0x80, 0xBF, b.toNat % 8⟩
  else if b = 0xF4 then some ⟨3, 0x80, 0x8F, 4⟩
  else none

/-- Reads the octets that follow a lead; an octet out of range is left for the next piece. -/
def continuation : Nat → UInt8 → UInt8 → Nat → Bytes → Option Char × Bytes
  | 0, _, _, value, rest => (some (Char.ofNat value), rest)
  | _ + 1, _, _, _, [] => (none, [])
  | n + 1, low, high, value, b :: rest =>
    if low ≤ b ∧ b ≤ high then continuation n 0x80 0xBF (value * 64 + b.toNat % 64) rest
    else (none, b :: rest)

theorem length_continuation_le (n : Nat) (low high : UInt8) (value : Nat) (bytes : Bytes) :
    (continuation n low high value bytes).2.length ≤ bytes.length := by
  induction n generalizing low high value bytes with
  | zero => simp [continuation]
  | succ n ih =>
    cases bytes with
    | nil => simp [continuation]
    | cons b rest =>
      simp only [continuation]
      split
      · exact Nat.le_succ_of_le (ih ..)
      · simp

/-- The piece that starts with the octet `b`: its character, or `none` if it is ill-formed, and
what is left after it. An ill-formed piece is the longest start of a sequence that could have been
well-formed, and at least one octet. -/
def piece (b : UInt8) (rest : Bytes) : Option Char × Bytes :=
  if b < 0x80 then (some (Char.ofNat b.toNat), rest)
  else match lead? b with
    | none => (none, rest)
    | some l => continuation l.following l.low l.high l.payload rest

theorem length_piece_le (b : UInt8) (rest : Bytes) : (piece b rest).2.length ≤ rest.length := by
  unfold piece
  split
  · simp
  · split
    · simp
    · exact length_continuation_le ..

/-- The pieces of a string of octets, added in reverse to those already read. -/
def piecesOnto (done : List (Option Char)) : Bytes → List (Option Char)
  | [] => done
  | b :: rest => piecesOnto ((piece b rest).1 :: done) (piece b rest).2
termination_by bytes => bytes.length
decreasing_by exact Nat.lt_succ_of_le (length_piece_le b rest)

/-- The characters of a string of octets in order, with `none` for each ill-formed piece. -/
def pieces (bytes : Bytes) : List (Option Char) := (piecesOnto [] bytes).reverse

/-- The text of well-formed octets. -/
def decode? (bytes : Bytes) : Option (List Char) := (pieces bytes).mapM id

/-- The text of any octets: each ill-formed piece becomes U+FFFD. -/
def decodeLossy (bytes : Bytes) : List Char := (pieces bytes).map (·.getD '\uFFFD')

example : decode? [0xC3, 0xA9] = some ['é'] ∧ decode? [0xC0, 0x80] = none ∧
    decode? [0xED, 0xA0, 0x80] = none ∧ decode? [0xF4, 0x90, 0x80, 0x80] = none := by decide +kernel

example : decodeLossy [0xE2, 0x82, 0x41] = ['\uFFFD', 'A'] := by decide +kernel

end Utf8

/-- The octets of a string. -/
def bytesOf (s : String) : Bytes := Utf8.encode s.toList

end ProtocolGateway

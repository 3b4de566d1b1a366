import ProtocolGateway.Text.Decimal
import ProtocolGateway.Text.Utf8

/-!
# Domain names

The ASCII form of a domain name. Capital letters are made small, compatibility forms are replaced
by their plain ones, and a label with other characters is written in Punycode after `xn--`.

## Main definitions

* `Punycode.encode`, `Punycode.decode?`: labels with characters above ASCII as ASCII text.
* `DomainName.toAscii?`: the ASCII form of a name, or `none` for a name that has none.
-/

namespace ProtocolGateway

namespace Punycode

/-- The character for a digit below thirty-six: letters first, then the decimal digits. -/
def digitChar (d : Nat) : Char :=
  if d < 26 then Char.ofNat (97 + d) else Char.ofNat (22 + d)

/-- The value of a digit. -/
def digitValue? (c : Char) : Option Nat :=
  let n := c.toNat
  if 97 ≤ n ∧ n ≤ 122 then some (n - 97)
  else if 65 ≤ n ∧ n ≤ 90 then some (n - 65)
  else if 48 ≤ n ∧ n ≤ 57 then some (n - 22)
  else none

/-- The threshold of a digit position: between one and twenty-six. -/
def threshold (position bias : Nat) : Nat := max 1 (min 26 (position - bias))

/-- Reduces a delta until it fits the last position, counting thirty-six for each step. -/
def reduce (delta steps : Nat) : Nat × Nat :=
  if 455 < delta then reduce (delta / 35) (steps + 36) else (delta, steps)
termination_by delta
decreasing_by omega

/-- The bias after a delta among so many characters. -/
def adapt (delta count : Nat) (first : Bool) : Nat :=
  let delta := if first then delta / 700 else delta / 2
  let (rest, steps) := reduce (delta + delta / count) 0
  steps + 36 * rest / (rest + 38)

/-- A delta as digits, the least significant first. -/
def deltaDigits (bias position q : Nat) : List Char :=
  let t := threshold position bias
  if q < t then [digitChar q]
  else digitChar (t + (q - t) % (36 - t)) :: deltaDigits bias (position + 36) ((q - t) / (36 - t))
termination_by q
decreasing_by
  have h : 1 ≤ threshold position bias := Nat.le_max_left ..
  exact Nat.lt_of_le_of_lt (Nat.div_le_self _ _) (by omega)

/-- The state of the encoder between two characters. -/
structure Encoding where
  /-- The digits written so far. -/
  digits : List Char := []
  /-- How many insertion points were passed since the last insertion. -/
  delta : Nat := 0
  /-- The bias of the thresholds. -/
  bias : Nat := 72
  /-- How many characters have been inserted. -/
  inserted : Nat

/-- Passes the character `c` while characters of value `m` are being inserted. -/
def Encoding.pass (basic m : Nat) (e : Encoding) (c : Char) : Encoding :=
  if c.toNat < m then { e with delta := e.delta + 1 }
  else if c.toNat = m then
    { digits := e.digits ++ deltaDigits e.bias 36 e.delta
      delta := 0
      bias := adapt e.delta (e.inserted + 1) (e.inserted == basic)
      inserted := e.inserted + 1 }
  else e

/-- Inserts the characters of the given values, in ascending order, from the value `n` on. -/
def Encoding.insertAll (label : List Char) (basic : Nat) : List Nat → Nat → Encoding → Encoding
  | [], _, e => e
  | m :: more, n, e =>
    let start := { e with delta := e.delta + (m - n) * (e.inserted + 1) }
    let stop := label.foldl (Encoding.pass basic m) start
    insertAll label basic more (m + 1) { stop with delta := stop.delta + 1 }

/-- A label in ASCII, without the `xn--` before it. -/
def encode (label : List Char) : List Char :=
  let basic := label.filter (·.toNat < 128)
  let values := ((label.filter (128 ≤ ·.toNat)).map Char.toNat).mergeSort.eraseDups
  let digits :=
    (Encoding.insertAll label basic.length values 128 { inserted := basic.length }).digits
  basic ++ (if basic.isEmpty then [] else ['-']) ++ digits

/-- Reads one delta: its value added to `i`, and what is left. -/
def readDelta? (bias : Nat) : List Char → Nat → Nat → Nat → Option (Nat × List Char)
  | [], _, _, _ => none
  | c :: rest, position, weight, i => do
    let d ← digitValue? c
    let t := threshold position bias
    let i := i + d * weight
    if d < t then return (i, rest) else readDelta? bias rest (position + 36) (weight * (36 - t)) i

/-- Reads at most `fuel` deltas; each takes at least one digit. -/
def insertions? : Nat → List Char → Nat → Nat → Nat → List Nat → Option (List Nat)
  | _, [], _, _, _, out => some out
  | 0, _ :: _, _, _, _, _ => none
  | fuel + 1, digits, n, i, bias, out => do
    let (next, rest) ← readDelta? bias digits 36 1 i
    let size := out.length + 1
    let value := n + next / size
    let place := next % size
    if 0x10FFFF < value then none
    else
      let out := out.take place ++ value :: out.drop place
      insertions? fuel rest value (place + 1) (adapt (next - i) size (i == 0)) out

/-- The label an ASCII text after `xn--` stands for. -/
def decode? (text : List Char) : Option (List Char) := do
  let back := text.reverse
  let (basic, digits) :=
    if text.contains '-' then
      (((back.dropWhile (· != '-')).drop 1).reverse, (back.takeWhile (· != '-')).reverse)
    else ([], text)
  let values ← insertions? digits.length digits 128 0 72 (basic.map Char.toNat)
  return values.map Char.ofNat

end Punycode

namespace DomainName

/-- Characters that no domain name may hold, by value. -/
def isForbidden (n : Nat) : Bool :=
  n ≤ 0x20 || n == 0x7F || "%#/:<>?@[\\]^|".toList.any (·.toNat == n)

/-- What a character above ASCII is replaced by before a name is compared: nothing for the
invisible ones, plain forms for wide and spaced ones, and small letters for capitals. -/
def fold (c : Char) : Option (List Char) :=
  let n := c.toNat
  let char (m : Nat) : Option (List Char) := some [Char.ofNat m]
  if n < 0x80 then some [c.toLower]
  else if n < 0xA0 then none
  else if n == 0xAD || n == 0x200B || n == 0x2060 || n == 0xFEFF || (0xFE00 ≤ n && n ≤ 0xFE0F) then
    some []
  else if n == 0x3002 || n == 0xFF0E || n == 0xFF61 then some ['.']
  else if 0xFF01 ≤ n && n ≤ 0xFF5E then some [(Char.ofNat (n - 0xFEE0)).toLower]
  else if (0xC0 ≤ n && n ≤ 0xDE && n != 0xD7) || (0x391 ≤ n && n ≤ 0x3A9) ||
      (0x410 ≤ n && n ≤ 0x42F) then char (n + 32)
  else if 0x400 ≤ n && n ≤ 0x40F then char (n + 80)
  else if 0x100 ≤ n && n ≤ 0x137 && n != 0x130 && n % 2 == 0 then char (n + 1)
  else if n == 0xA0 || (0x2000 ≤ n && n ≤ 0x200F) || (0x2028 ≤ n && n ≤ 0x202F) || n == 0x3000 ||
      (0xE000 ≤ n && n ≤ 0xF8FF) || (0xFFF0 ≤ n && n ≤ 0xFFFF) then none
  else some [c]

/-- The labels of a name. -/
def labels (name : List Char) : List (List Char) :=
  name.foldr (fun c parts => match parts with
    | part :: rest => if c = '.' then [] :: part :: rest else (c :: part) :: rest
    | [] => [[c]]) [[]]

/-- A folded label in ASCII. -/
def labelToAscii? (label : List Char) : Option (List Char) :=
  if label.any (fun c => isForbidden c.toNat) then none
  else if label.any (128 ≤ ·.toNat) then some ("xn--".toList ++ Punycode.encode label)
  else match label with
    | 'x' :: 'n' :: '-' :: '-' :: text =>
      match Punycode.decode? text with
      | some decoded =>
        if decoded.any (128 ≤ ·.toNat) && Punycode.encode decoded == text then some label else none
      | none => none
    | _ => some label

/-- The ASCII form of a name. -/
def toAscii? (name : List Char) : Option (List Char) := do
  let folded ← name.mapM fold
  let parts ← (labels folded.flatten).mapM labelToAscii?
  return (parts.intersperse ['.']).flatten

example : toAscii? "É.FR".toList = some "xn--9ca.fr".toList := by decide +kernel

end DomainName

end ProtocolGateway

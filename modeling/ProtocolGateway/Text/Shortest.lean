import ProtocolGateway.Text.Decimal

/-!
# Shortest decimals of binary fractions

A decimal numeral is rounded to the nearest number with a significand of 53 bits, half to even, and
such a number is written with the fewest digits that are nearer to it than to any other. All of it
is exact arithmetic on natural numbers.
-/

namespace ProtocolGateway.Shortest

/-- A number with a significand of 53 bits: `significand * 2 ^ exponent`. -/
structure Binary where
  /-- Below `Nat.pow 2 53`. -/
  significand : Nat
  /-- At least `-1074`. -/
  exponent : Int
deriving DecidableEq, Repr

/-- The quotient rounded to the nearest number, half to even. -/
def roundDiv (num den : Nat) : Nat :=
  let q := num / den
  let twice := 2 * (num % den)
  if den < twice || (twice == den && q % 2 == 1) then q + 1 else q

/-- `a * 10 ^ e` as a fraction. -/
def fraction (a : Nat) (base : Nat) (e : Int) : Nat × Nat :=
  if 0 ≤ e then (a * Nat.pow base e.toNat, 1) else (a, Nat.pow base (-e).toNat)

/-- The binary number nearest to `digits * 10 ^ exponent`; `none` if it is too large for one. -/
def nearest? (digits : Nat) (exponent : Int) : Option Binary :=
  let size : Int := (toString digits).length + exponent
  if digits = 0 || size < -330 then some ⟨0, -1074⟩
  else if 310 < size then none
  else
    let (num, den) := fraction digits 10 exponent
    let scaled (q : Int) : Nat × Nat :=
      if 0 ≤ q then (num, den * Nat.pow 2 q.toNat) else (num * Nat.pow 2 (-q).toNat, den)
    let low : Int := max (-1074) ((num.log2 : Int) - den.log2 - 53)
    let (n, d) := scaled low
    let q := if Nat.pow 2 53 ≤ n / d then low + 1 else low
    let (n, d) := scaled q
    let m := roundDiv n d
    let (m, q) := if m = Nat.pow 2 53 then (Nat.pow 2 52, q + 1) else (m, q)
    if 971 < q then none else some ⟨m, q⟩

/-- Compares `a * 10 ^ s` with `b * 2 ^ q`. -/
def compareScaled (a : Nat) (s : Int) (b : Nat) (q : Int) : Ordering :=
  let (an, ad) := fraction a 10 s
  let (bn, bd) := fraction b 2 q
  compare (an * bd) (bn * ad)

/-- The exponent of the leading decimal digit of a number other than zero. -/
def leadingExponent (b : Binary) : Int :=
  let (n, d) := fraction (b.significand * Nat.pow 10 330) 2 b.exponent
  ((toString (n / d)).length : Int) - 331

/-- The shortest digits within half a step of the number, with the exponent of the last digit. -/
def digits (b : Binary) : Nat × Int :=
  let unit := b.exponent - 2
  let value := 4 * b.significand
  let high := value + 2
  let low := if b.significand = Nat.pow 2 52 && -1074 < b.exponent then value - 1 else value - 2
  let closed := b.significand % 2 == 0
  let inside (c : Nat) (s : Int) : Bool :=
    let l := compareScaled c s low unit
    let h := compareScaled c s high unit
    (l == .gt || (closed && l == .eq)) && (h == .lt || (closed && h == .eq))
  let top := leadingExponent b
  let attempt (k : Nat) : Option (Nat × Int) :=
    let s := top - k
    let (n, d) := fraction value 2 unit
    let (p, r) := fraction 1 10 s
    let below := n * r / (d * p)
    -- the point half way between the two candidates decides which is nearer
    let upFirst := compareScaled (2 * below + 1) s (2 * value) unit == .lt
    let (first, second) := if upFirst then (below + 1, below) else (below, below + 1)
    if inside first s then some (first, s)
    else if inside second s then some (second, s)
    else none
  ((List.range 17).findSome? attempt).getD (0, 0)

/-- Digits in positional notation, with `.0` after a whole number. -/
def positional (digits : Nat) (exponent : Int) : String :=
  let text := toString digits
  if 0 ≤ exponent then text ++ String.ofList (List.replicate exponent.toNat '0') ++ ".0"
  else
    let places := (-exponent).toNat
    let padded := String.ofList (List.replicate (places + 1 - text.length) '0') ++ text
    String.ofList (padded.toList.take (padded.length - places)) ++ "." ++
      String.ofList (padded.toList.drop (padded.length - places))

/-- The numeral of `digits * 10 ^ exponent` after rounding to a binary number. -/
def render (decimal : Nat) (exponent : Int) : String :=
  match nearest? decimal exponent with
  | none => "inf"
  | some b =>
    if b.significand = 0 then "0.0"
    else
      let (d, e) := digits b
      positional d e

example : [positional 5 0, positional 5 2, positional 5 (-2)] = ["5.0", "500.0", "0.05"] := by
  decide +kernel

example : nearest? 17976931348623159 292 = none := by decide +kernel

end ProtocolGateway.Shortest

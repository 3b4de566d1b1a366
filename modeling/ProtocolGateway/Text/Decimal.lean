/-!
# Numerals

Unsigned numerals as they occur in addresses, header values and log filters: a number is the value
of its digits, and a reader says how many digits it takes and which values are in range. Of decimal
fractions only the form matters here.
-/

namespace ProtocolGateway.Decimal

/-- The value of a digit in a base up to sixteen. -/
def digit? (base : Nat) (c : Char) : Option Nat :=
  let n := c.toNat
  let d :=
    if 48 ≤ n ∧ n ≤ 57 then n - 48
    else if 97 ≤ n ∧ n ≤ 102 then n - 87
    else if 65 ≤ n ∧ n ≤ 70 then n - 55
    else base
  if d < base then some d else none

/-- Whether the character is one of the ten decimal digits. -/
def isDigit (c : Char) : Bool := (digit? 10 c).isSome

/-- The value of a list of digits, most significant first, read after `value`. -/
def valueFrom (base value : Nat) (digits : List Char) : Nat :=
  digits.foldl (fun v c => v * base + (digit? base c).getD 0) value

/-- The number that consists of the digits of `text`, if that holds digits only and at least one. -/
def ofDigits? (base : Nat) (text : List Char) : Option Nat :=
  if text.isEmpty then none
  else if text.all (fun c => (digit? base c).isSome) then some (valueFrom base 0 text)
  else none

/-- The number below `bound` that `text` denotes; a leading plus sign is allowed. -/
def below? (bound : Nat) (text : List Char) : Option Nat :=
  let digits := match text with
    | '+' :: rest => rest
    | _ => text
  (ofDigits? 10 digits).filter (· < bound)

/-- How many values a machine word of 64 bits has. -/
def wordBound : Nat := 18446744073709551616

/-- Whether the text is the exponent of a decimal fraction, or nothing. -/
def isExponent : List Char → Bool
  | [] => true
  | c :: rest =>
    let digits := match rest with
      | '+' :: rest => rest
      | '-' :: rest => rest
      | _ => rest
    (c == 'e' || c == 'E') && !digits.isEmpty && digits.all isDigit

/-- Whether the text is a decimal fraction without a sign: at least one digit, at most one point,
and perhaps an exponent. -/
def isFraction (text : List Char) : Bool :=
  let isMantissa (c : Char) : Bool := isDigit c || c == '.'
  let mantissa := text.takeWhile isMantissa
  mantissa.any isDigit && mantissa.count '.' ≤ 1 && isExponent (text.dropWhile isMantissa)

/-- Whether the text is a number of floating point: perhaps a sign, and then a decimal fraction or
the word for infinity or for no number at all, in any case. -/
def isFloat (text : List Char) : Bool :=
  let unsigned := match text with
    | '+' :: rest => rest
    | '-' :: rest => rest
    | _ => text
  isFraction unsigned ||
    ["inf", "infinity", "nan"].contains (String.ofList (unsigned.map Char.toLower))

/-- The digits of a number, most significant first. -/
def render (n : Nat) : String := toString n

end ProtocolGateway.Decimal

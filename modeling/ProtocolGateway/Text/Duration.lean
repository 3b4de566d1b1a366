/-!
# Durations in messages

A duration is written in the largest unit that it fills, seconds or milliseconds, with as many
decimals as it needs.
-/

namespace ProtocolGateway.Text

/-- The decimals of a number of thousandths, without zeros at the end. -/
def thousandths (n : Nat) : List Char :=
  let digits := [n / 100 % 10, n / 10 % 10, n % 10].map fun d => Char.ofNat (48 + d)
  (digits.reverse.dropWhile (· = '0')).reverse

/-- A number of milliseconds as messages show it. -/
def duration (ms : Nat) : String :=
  if ms = 0 then "0ns"
  else if ms < 1000 then toString ms ++ "ms"
  else if ms % 1000 = 0 then toString (ms / 1000) ++ "s"
  else toString (ms / 1000) ++ "." ++ String.ofList (thousandths (ms % 1000)) ++ "s"

example : [0, 60, 5000, 1500, 90001, 1010].map duration =
    ["0ns", "60ms", "5s", "1.5s", "90.001s", "1.01s"] := by decide +kernel

end ProtocolGateway.Text

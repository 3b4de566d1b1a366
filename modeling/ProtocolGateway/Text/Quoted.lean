import ProtocolGateway.Text.Utf8

/-!
# Quoted texts in messages

A text in double quotes for a message: quotes, backslashes and characters that would not show are
escaped, and those without a short escape are written by number.
-/

namespace ProtocolGateway.Text

/-- Whether the character would not show, or would change the one before it. -/
def isInvisible (c : Char) : Bool :=
  let n := c.toNat
  n < 0x20 || (0x7F ≤ n && n ≤ 0x9F) || n == 0xAD || (0x300 ≤ n && n ≤ 0x36F) ||
    n == 0xA0 || n == 0x1680 || (0x2000 ≤ n && n ≤ 0x200F) || (0x2028 ≤ n && n ≤ 0x202F) ||
    (0x205F ≤ n && n ≤ 0x206F) || n == 0x3000 || (0xE000 ≤ n && n ≤ 0xF8FF) ||
    (0xFE00 ≤ n && n ≤ 0xFE0F) || n == 0xFEFF || (0xFFF0 ≤ n && n ≤ 0xFFFB) || 0xE0000 ≤ n

/-- A character between the quotes. -/
def quoteChar (c : Char) : List Char :=
  if c = '"' then ['\\', '"']
  else if c = '\\' then ['\\', '\\']
  else if c = '\n' then ['\\', 'n']
  else if c = '\r' then ['\\', 'r']
  else if c = '\t' then ['\\', 't']
  else if c.toNat = 0 then ['\\', '0']
  else if isInvisible c then
    ['\\', 'u', '\x7b'] ++ (Nat.toDigits 16 c.toNat) ++ ['\x7d']
  else [c]

/-- A text in double quotes. -/
def quoted (text : List Char) : String :=
  String.ofList ('"' :: text.flatMap quoteChar ++ ['"'])

example : quoted "a\"\t\u200b".toList = "\"a\\\"\\t\\u\x7b200b\x7d\"" := by decide +kernel

end ProtocolGateway.Text

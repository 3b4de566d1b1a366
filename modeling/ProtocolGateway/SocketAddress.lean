import ProtocolGateway.Text.Blank
import ProtocolGateway.Text.Decimal

/-!
# Socket addresses

The address a socket is bound to: an IPv4 or IPv6 address and a port. `SocketAddress.parse?` reads
the written form: four decimal octets, or a bracketed list of hexadecimal groups in which one run
of zero groups may be left out and the last two groups may be written as four decimal octets.

Each reader takes the rest of the text and gives what it read together with what is left.
-/

namespace ProtocolGateway

/-- An internet address. -/
inductive IpAddress where
  /-- Four octets. -/
  | v4 (a b c d : Nat)
  /-- Eight groups of sixteen bits. -/
  | v6 (groups : List Nat)
deriving DecidableEq, Repr

/-- An internet address with a port. -/
structure SocketAddress where
  /-- The address. -/
  ip : IpAddress
  /-- The port; zero asks for a free one. -/
  port : Nat
deriving DecidableEq, Repr

namespace SocketAddress

/-- Takes the character `c`. -/
def takeChar? (c : Char) : List Char → Option (List Char)
  | [] => none
  | d :: rest => if d = c then some rest else none

/-- Takes the longest run of digits as a number of at most `bound`, provided it is not empty and
has at most `most` digits; unless `zeros` holds, a number of several digits does not start with
zero. -/
def takeNumber? (base bound : Nat) (most : Option Nat) (zeros : Bool) (text : List Char) :
    Option (Nat × List Char) :=
  let isDigit (c : Char) : Bool := (Decimal.digit? base c).isSome
  let digits := text.takeWhile isDigit
  let value := Decimal.valueFrom base 0 digits
  if digits.isEmpty then none
  else if most.any (· < digits.length) then none
  else if !zeros && digits.length > 1 && digits.head? == some '0' then none
  else if bound < value then none
  else some (value, text.dropWhile isDigit)

/-- Takes four decimal octets. -/
def takeV4? (text : List Char) : Option ((Nat × Nat × Nat × Nat) × List Char) := do
  let octet (t : List Char) := takeNumber? 10 255 (some 3) false t
  let (a, text) ← octet text
  let (b, text) ← (takeChar? '.' text).bind octet
  let (c, text) ← (takeChar? '.' text).bind octet
  let (d, text) ← (takeChar? '.' text).bind octet
  return ((a, b, c, d), text)

/-- What a run of groups was read as. -/
structure Groups where
  /-- The groups, sixteen bits each. -/
  values : List Nat
  /-- Whether the last two were written as decimal octets. -/
  endsInV4 : Bool
  /-- What is left after them. -/
  rest : List Char

/-- Takes up to the given number of groups with colons between them. Decimal octets count as two
groups and end the run. -/
def takeGroups : Nat → Bool → List Char → Groups
  | 0, _, text => ⟨[], false, text⟩
  | n + 1, first, text =>
    let next := if first then some text else takeChar? ':' text
    match if n = 0 then none else next.bind takeV4? with
    | some ((a, b, c, d), rest) => ⟨[a * 256 + b, c * 256 + d], true, rest⟩
    | none =>
      match next.bind (takeNumber? 16 0xFFFF (some 4) true) with
      | none => ⟨[], false, text⟩
      | some (g, rest) =>
        let more := takeGroups n false rest
        { more with values := g :: more.values }

/-- Takes the groups of an IPv6 address. The run of zero groups that `::` stands for is never
empty. -/
def takeV6? (text : List Char) : Option (List Nat × List Char) :=
  let front := takeGroups 8 true text
  if front.values.length = 8 then some (front.values, front.rest)
  else if front.endsInV4 then none
  else match front.rest with
    | ':' :: ':' :: rest =>
      let back := takeGroups (7 - front.values.length) true rest
      let zeros := List.replicate (8 - front.values.length - back.values.length) 0
      some (front.values ++ zeros ++ back.values, back.rest)
    | _ => none

/-- The port after the address, which ends the text. -/
def portAtEnd? (text : List Char) : Option Nat := do
  let (port, rest) ← (takeChar? ':' text).bind (takeNumber? 10 0xFFFF none true)
  if rest.isEmpty then return port else none

/-- Four octets, a colon and a port. -/
def ofV4Text? (text : List Char) : Option SocketAddress := do
  let ((a, b, c, d), rest) ← takeV4? text
  return ⟨.v4 a b c d, ← portAtEnd? rest⟩

/-- A bracketed address with an optional numeric scope, a colon and a port. -/
def ofV6Text? (text : List Char) : Option SocketAddress := do
  let (groups, rest) ← (takeChar? '[' text).bind takeV6?
  let rest := match (takeChar? '%' rest).bind (takeNumber? 10 0xFFFFFFFF none true) with
    | some (_, afterScope) => afterScope
    | none => rest
  return ⟨.v6 groups, ← (takeChar? ']' rest).bind portAtEnd?⟩

/-- Reads a socket address. -/
def parse? (s : String) : Option SocketAddress :=
  match ofV4Text? s.toList with
  | some a => some a
  | none => ofV6Text? s.toList

/-- Why a text is no socket address. -/
def invalidMessage : String := "invalid socket address syntax"

example : parse? "127.0.0.1:0" = some ⟨.v4 127 0 0 1, 0⟩ := by decide

example : parse? "[fe80::1%1]:08080" = some ⟨.v6 [0xfe80, 0, 0, 0, 0, 0, 0, 1], 8080⟩ := by decide

end SocketAddress

end ProtocolGateway

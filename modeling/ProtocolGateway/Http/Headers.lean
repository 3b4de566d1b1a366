import ProtocolGateway.Http.Verb
import ProtocolGateway.Text.Decimal
import ProtocolGateway.Text.Utf8

/-!
# Headers

The headers of a message in their order. Names are kept in lower case, values are octets, and a
name may occur several times.
-/

namespace ProtocolGateway

/-- The headers of a message. -/
abbrev Headers := List (String × Bytes)

namespace Headers

/-- The first value of a header. -/
def first? (name : String) : Headers → Option Bytes
  | [] => none
  | (k, value) :: rest => if k = name then some value else first? name rest

/-- All values of a header. -/
def values (name : String) (headers : Headers) : List Bytes :=
  (headers.filter (·.1 = name)).map (·.2)

/-- Whether a header is present. -/
def has (name : String) (headers : Headers) : Bool := (headers.first? name).isSome

/-- Adds a header, unless one of that name is present. -/
def addMissing (name : String) (value : Bytes) (headers : Headers) : Headers :=
  if headers.has name then headers else headers ++ [(name, value)]

/-- Adds a header with a value, if there is one and none of that name is present. -/
def addMissing? (name : String) (value : Option Bytes) (headers : Headers) : Headers :=
  match value with
  | none => headers
  | some value => headers.addMissing name value

/-- Whether an octet may stand in a value. -/
def isValueByte (b : UInt8) : Bool := (0x20 ≤ b && b != 0x7F) || b == 0x09

/-- The text of a value that consists of visible ASCII characters, spaces and tabs. -/
def visibleText? (value : Bytes) : Option (List Char) :=
  if value.all fun b => (0x20 ≤ b && b < 0x7F) || b == 0x09 then
    some (value.map fun b => Char.ofNat b.toNat)
  else none

/-- The length that a message announces, if its first header of that name holds a number. -/
def announcedLength? (headers : Headers) : Option Nat :=
  ((headers.first? "content-length").bind visibleText?).bind (Decimal.below? Decimal.wordBound)

variable {name other : String} {value : Bytes} {headers : Headers}

theorem first?_append : first? name (headers ++ [(name, value)]) =
    some ((first? name headers).getD value) := by
  induction headers with
  | nil => exact if_pos rfl
  | cons entry rest ih =>
    obtain ⟨k, v⟩ := entry
    rw [List.cons_append, first?, first?, ih]
    by_cases h : k = name
    · rw [if_pos h, if_pos h]; rfl
    · rw [if_neg h, if_neg h]

theorem first?_addMissing : (headers.addMissing name value).first? name =
    some ((headers.first? name).getD value) := by
  unfold addMissing
  by_cases h : headers.has name = true
  · obtain ⟨v, hv⟩ := Option.isSome_iff_exists.1 h
    simp [h, hv]
  · simp [h, first?_append]

end Headers

/-- Why no request can be made of its parts. -/
inductive HeaderError where
  | name
  | value
deriving DecidableEq, Repr

/-- The wording of a header error. -/
def HeaderError.message : HeaderError → String
  | .name => "invalid HTTP header name"
  | .value => "failed to parse header value"

/-- Reads a header. -/
def Headers.parseEntry (name : List Char) (value : Bytes) : Except HeaderError (String × Bytes) :=
  if !isToken name then .error .name
  else if !value.all isValueByte then .error .value
  else .ok (String.ofList (name.map Char.toLower), value)

end ProtocolGateway

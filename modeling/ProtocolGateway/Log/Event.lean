import ProtocolGateway.Json
import ProtocolGateway.Log.Filter
import ProtocolGateway.Text.Quoted

/-!
# Log events

An event has a severity, comes from a part of the program, and says something with named values.
On a terminal it is one line, and for a collector one document.
-/

namespace ProtocolGateway.Log

/-- The value of a field of an event. -/
inductive FieldValue where
  /-- A text that is shown as it is. -/
  | plain (text : String)
  /-- A text that is shown in quotes. -/
  | quoted (text : String)
  | number (n : Nat)
deriving DecidableEq, Repr

/-- The text of a value. -/
def FieldValue.text : FieldValue → String
  | .plain text => text
  | .quoted text => text
  | .number n => toString n

/-- A value as a line shows it. -/
def FieldValue.shown : FieldValue → String
  | .quoted text => Text.quoted text.toList
  | value => value.text

/-- A value as a document. -/
def FieldValue.toJson : FieldValue → Json
  | .number n => .num n
  | value => .str value.text

/-- The name under which the parts of the program log. -/
def rootTarget : String := "service_gateway"

/-- An event of the log. -/
structure Event where
  level : Level
  /-- The part of the program that it comes from. -/
  target : String
  message : String
  fields : List (String × FieldValue) := []
deriving DecidableEq, Repr

namespace Event

/-- An event of a part of the program. -/
def of (level : Level) (part : String) (message : String)
    (fields : List (String × FieldValue) := []) : Event :=
  { level, target := rootTarget ++ "::" ++ part, message, fields }

/-- What a filter asks of an event. -/
def metadata (e : Event) : Metadata :=
  { level := e.level, target := e.target.toList,
    fields := "message".toList :: e.fields.map fun f => f.1.toList }

/-- An event as one line. -/
def line (e : Event) : String :=
  let fields := e.fields.map fun (name, value) => " " ++ name ++ "=" ++ value.shown
  e.level.name ++ " " ++ e.target ++ ": " ++ e.message ++ String.join fields

/-- An event as a document. -/
def toJson (e : Event) : Json :=
  let fields := ("message", Json.str e.message) ::
    e.fields.map fun (name, value) => (name, value.toJson)
  .obj [("level", .str e.level.name), ("fields", .obj fields), ("target", .str e.target)]

end Event

end ProtocolGateway.Log

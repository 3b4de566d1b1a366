import ProtocolGateway.Settings
import ProtocolGateway.Text.Decimal
import ProtocolGateway.Text.Quoted
import ProtocolGateway.Text.Shortest
import ProtocolGateway.Toml.Document

/-!
# Settings from a TOML document

Each section is a table whose known keys replace the default values, or an array whose items fill
the fields in the order in which they are declared. Unknown keys are ignored. The first item of the
document that has the wrong shape is reported.

## Main definitions

* `ShapeError`: what is wrong with an item.
* `Settings.ofValue`: the settings that a value denotes.
-/

namespace ProtocolGateway

/-- Why a value is not of the shape that its place asks for. -/
inductive ShapeError where
  /-- The value is of another kind than expected. -/
  | wrongKind (found expected : String)
  /-- The number is out of range. -/
  | outOfRange (n : Int) (expected : String)
  /-- The word is none of the modes. -/
  | unknownMode (word : List Char)
  /-- A mode is neither a word nor a table. -/
  | notWordOrTable
  /-- A mode is an empty table. -/
  | noElement
  /-- A mode is a table of several keys. -/
  | severalElements
  /-- The value under the name of a mode holds something. -/
  | notEmpty (what : String)
  /-- The value under the name of a mode is no table. -/
  | notTable (found : String)
deriving DecidableEq, Repr

/-- A text between backquotes. -/
def backquoted (s : String) : String := "\x60" ++ s ++ "\x60"

/-- The wording of a shape error. -/
def ShapeError.message : ShapeError → String
  | .wrongKind found expected => s!"invalid type: {found}, expected {expected}"
  | .outOfRange n expected =>
    "invalid value: integer " ++ backquoted (toString n) ++ ", expected " ++ expected
  | .unknownMode word =>
    "unknown variant " ++ backquoted (String.ofList word) ++ ", expected " ++
      backquoted "debug" ++ " or " ++ backquoted "release"
  | .notWordOrTable => "wanted string or table"
  | .noElement => "wanted exactly 1 element, found 0 elements"
  | .severalElements => "wanted exactly 1 element, more than 1 element"
  | .notEmpty what => s!"expected empty {what}"
  | .notTable found => s!"expected table, found {found}"

namespace Toml

/-- A number with a fraction as messages show it. -/
def Fractional.text : Fractional → String
  | .finite negative digits exponent =>
    (if negative then "-" else "") ++ Shortest.render digits exponent
  | .infinite negative => if negative then "-inf" else "inf"
  | .notANumber => "NaN"

/-- A value as a message shows it. -/
def Value.describe : Value → String
  | .string text => "string " ++ Text.quoted text
  | .integer n => "integer " ++ backquoted (toString n)
  | .float x => "floating point " ++ backquoted x.text
  | .boolean b => "boolean " ++ backquoted (if b then "true" else "false")
  | .moment => "map"
  | .array _ => "sequence"
  | .table _ => "map"
  | .tables _ => "sequence"

/-- The name of a kind of value. -/
def Value.kind : Value → String
  | .string _ => "string"
  | .integer _ => "integer"
  | .float _ => "float"
  | .boolean _ => "boolean"
  | .moment => "datetime"
  | .array _ => "array"
  | .table _ => "table"
  | .tables _ => "array of tables"

/-- Reads a text. -/
def Value.asText : Value → Except ShapeError String
  | .string text => .ok (String.ofList text)
  | v => .error (.wrongKind v.describe "a string")

/-- Reads a truth value. -/
def Value.asBool : Value → Except ShapeError Bool
  | .boolean b => .ok b
  | v => .error (.wrongKind v.describe "a boolean")

/-- Reads a number that fits an unsigned word; `expected` names the kind of word in messages. -/
def Value.asWord (expected : String) : Value → Except ShapeError Nat
  | .integer n =>
    if 0 ≤ n && n.toNat < Decimal.wordBound then .ok n.toNat else .error (.outOfRange n expected)
  | v => .error (.wrongKind v.describe expected)

end Toml

open Toml (Value)

namespace Settings

/-- Reads a mode: its name, or a table with the name as its only key and nothing under it. -/
def modeOfValue (v : Value) : Except ShapeError RunMode :=
  let ofWord (word : List Char) : Except ShapeError RunMode :=
    if word = "debug".toList then .ok .debug
    else if word = "release".toList then .ok .release
    else .error (.unknownMode word)
  match v with
  | .string word => ofWord word
  | .table [] => .error .noElement
  | .table [(word, content)] => do
    let mode ← ofWord word
    match content with
    | .table [] => return mode
    | .array [] => return mode
    | .table _ => throw (.notEmpty "table")
    | .array _ => throw (.notEmpty "array")
    | other => throw (.notTable other.kind)
  | .table _ => .error .severalElements
  | _ => .error .notWordOrTable

/-- A field of a section: its key, and how its value changes the section. -/
structure Field (σ : Type) where
  /-- The key. -/
  key : String
  /-- Reads the value into the section. -/
  set : Value → σ → Except ShapeError σ

/-- Reads a section with the given fields, starting from its default values. -/
def sectionOfValue {σ : Type} (name : String) (fields : List (Field σ)) (start : σ) (v : Value) :
    Except ShapeError σ :=
  let fill (items : List Value) : Except ShapeError σ :=
    (items.zip fields).foldlM (fun section' (item, field) => field.set item section') start
  match v with
  | .table items =>
    items.foldlM (fun section' (key, item) =>
      match fields.find? (·.key.toList = key) with
      | some field => field.set item section'
      | none => .ok section') start
  | .array items => fill items
  | .tables items => fill items
  | v => .error (.wrongKind v.describe ("struct " ++ name))

/-- The fields of the listener section. -/
def listenerFields : List (Field ListenerSettings) := [
  ⟨"bind_address", fun v s => return { s with bindAddress := ← v.asText }⟩,
  ⟨"max_connections", fun v s => return { s with maxConnections := ← v.asWord "usize" }⟩,
  ⟨"peek_timeout_ms", fun v s => return { s with peekTimeoutMs := ← v.asWord "u64" }⟩,
  ⟨"peek_buffer_bytes", fun v s => return { s with peekBufferBytes := ← v.asWord "usize" }⟩]

/-- The fields of the gateway section. -/
def gatewayFields : List (Field GatewaySettings) := [
  ⟨"prefix", fun v s => return { s with pathPrefix := ← v.asText }⟩]

/-- The fields of the health section. -/
def healthFields : List (Field HealthSettings) := [
  ⟨"path", fun v s => return { s with path := ← v.asText }⟩]

/-- The fields of the timeouts section. -/
def timeoutFields : List (Field TimeoutSettings) := [
  ⟨"request_secs", fun v s => return { s with requestSecs := ← v.asWord "u64" }⟩,
  ⟨"shutdown_ms", fun v s => return { s with shutdownMs := ← v.asWord "u64" }⟩]

/-- The fields of the limits section. -/
def limitFields : List (Field LimitSettings) := [
  ⟨"max_body_bytes", fun v s => return { s with maxBodyBytes := ← v.asWord "usize" }⟩]

/-- The fields of the observability section. -/
def observabilityFields : List (Field ObservabilitySettings) := [
  ⟨"log_level", fun v s => return { s with logLevel := ← v.asText }⟩,
  ⟨"metrics_enabled", fun v s => return { s with metricsEnabled := ← v.asBool }⟩,
  ⟨"metrics_address", fun v s => return { s with metricsAddress := ← v.asText }⟩]

/-- The fields of the log shipping section. -/
def logShippingFields : List (Field LogShippingSettings) := [
  ⟨"enabled", fun v s => return { s with enabled := ← v.asBool }⟩,
  ⟨"endpoint", fun v s => return { s with endpoint := ← v.asText }⟩,
  ⟨"batch_size", fun v s => return { s with batchSize := ← v.asWord "usize" }⟩,
  ⟨"flush_interval_ms", fun v s => return { s with flushIntervalMs := ← v.asWord "u64" }⟩,
  ⟨"queue_capacity", fun v s => return { s with queueCapacity := ← v.asWord "usize" }⟩]

/-- The sections. -/
def fields : List (Field Settings) := [
  ⟨"mode", fun v s => return { s with mode := ← modeOfValue v }⟩,
  ⟨"listener", fun v s =>
    return { s with listener := ← sectionOfValue "ListenerConfig" listenerFields {} v }⟩,
  ⟨"gateway", fun v s =>
    return { s with gateway := ← sectionOfValue "GatewayRouteConfig" gatewayFields {} v }⟩,
  ⟨"health", fun v s =>
    return { s with health := ← sectionOfValue "HealthConfig" healthFields {} v }⟩,
  ⟨"timeouts", fun v s =>
    return { s with timeouts := ← sectionOfValue "TimeoutConfig" timeoutFields {} v }⟩,
  ⟨"limits", fun v s =>
    return { s with limits := ← sectionOfValue "LimitsConfig" limitFields {} v }⟩,
  ⟨"observability", fun v s => return { s with
    observability := ← sectionOfValue "ObservabilityConfig" observabilityFields {} v }⟩,
  ⟨"log_shipping", fun v s => return { s with
    logShipping := ← sectionOfValue "LogShippingConfig" logShippingFields {} v }⟩]

/-- The settings that a value denotes. -/
def ofValue (v : Value) : Except ShapeError Settings :=
  sectionOfValue "GatewayConfig" fields {} v

end Settings

end ProtocolGateway

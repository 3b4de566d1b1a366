import ProtocolGateway.Text.Decimal

/-!
# Log levels

Five severities, and the verbosity of a filter: either one of them or off. A verbosity lets a
level through if the level is at least as severe.
-/

namespace ProtocolGateway.Log

/-- The severity of an event. -/
inductive Level where
  | error
  | warn
  | info
  | debug
  | trace
deriving DecidableEq, Repr

namespace Level

/-- All levels, the most severe first. -/
def all : List Level := [.error, .warn, .info, .debug, .trace]

/-- How verbose a log is that shows the level: one for errors, five for everything. -/
def rank : Level → Nat
  | .error => 1
  | .warn => 2
  | .info => 3
  | .debug => 4
  | .trace => 5

/-- The level as log lines show it. -/
def name : Level → String
  | .error => "ERROR"
  | .warn => "WARN"
  | .info => "INFO"
  | .debug => "DEBUG"
  | .trace => "TRACE"

/-- The lower-case word for the level. -/
def word : Level → String
  | .error => "error"
  | .warn => "warn"
  | .info => "info"
  | .debug => "debug"
  | .trace => "trace"

end Level

/-- How much a filter shows: nothing, or everything down to a level. -/
abbrev Verbosity := Option Level

namespace Verbosity

/-- Whether an event of the level is shown. -/
def shows (v : Verbosity) (level : Level) : Bool :=
  match v with
  | none => false
  | some most => level.rank ≤ most.rank

/-- The verbosity with the given number, zero being off. -/
def ofRank? : Nat → Option Verbosity
  | 0 => some none
  | 1 => some (some .error)
  | 2 => some (some .warn)
  | 3 => some (some .info)
  | 4 => some (some .debug)
  | 5 => some (some .trace)
  | _ => none

/-- The text in lower case, as far as it is ASCII. -/
def lower (text : List Char) : String := String.ofList (text.map Char.toLower)

/-- Reads a verbosity: a number up to five, or a word in any case. The empty text means errors
only. -/
def parse? (text : List Char) : Option Verbosity :=
  match Decimal.below? Decimal.wordBound text with
  | some n => ofRank? n
  | none =>
    if text.isEmpty then some (some .error)
    else if lower text = "off" then some none
    else (Level.all.find? fun l => l.word = lower text).map some

end Verbosity

end ProtocolGateway.Log

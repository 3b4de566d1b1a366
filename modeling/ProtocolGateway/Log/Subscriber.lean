import ProtocolGateway.Log.Event
import ProtocolGateway.Settings

/-!
# Subscriber

The subscriber decides which events are shown. Its filter is taken from the environment, if that has
one, and then never changes; otherwise it is built from the level of the settings, and built again
when they change.

## Main definitions

* `Subscriber.ofSettings`: the subscriber of a process.
* `Subscriber.apply`: takes over the level of new settings.
-/

namespace ProtocolGateway.Log

/-- The part of the program that filters and writes the log. -/
def loggingPart : String := "observability::logging"

/-- Decides which events are shown. -/
structure Subscriber where
  filter : Filter
  /-- Whether the filter comes from the environment. -/
  fixed : Bool
deriving DecidableEq, Repr

namespace Subscriber

/-- The filter of a level. -/
def filterOf [Patterns] (level : String) : Except FilterError Filter :=
  Filter.parse (filterText level).toList

/-- The subscriber of a process with an environment and settings. A text in the environment that is
no filter counts as none, if it can be read at all. -/
def ofSettings [Patterns] (environment : Option String) (s : Settings) :
    Except FilterError Subscriber :=
  match environment.map fun text => Filter.parse text.toList with
  | some (.ok filter) => .ok ⟨filter, true⟩
  | some (.error .crashed) => .error .crashed
  | _ => (filterOf s.effectiveLogLevel).map (⟨·, false⟩)

/-- Takes over the level of accepted settings, and tells so under the new filter. -/
def apply [Patterns] (s : Settings) (subscriber : Subscriber) : Subscriber × Event :=
  let level := s.effectiveLogLevel
  if subscriber.fixed then
    (subscriber, .of .debug loggingPart "RUST_LOG set, ignoring configured log level")
  else match filterOf level with
    | .error e =>
      (subscriber, .of .warn loggingPart "Invalid log level, keeping current filter"
        [("level", .quoted level), ("error", .plain e.message)])
    | .ok filter =>
      ({ subscriber with filter },
        .of .info loggingPart "Log level updated" [("level", .quoted level)])

/-- Whether an event is shown. -/
def shows (subscriber : Subscriber) (e : Event) : Bool := subscriber.filter.shows e.metadata

end Subscriber

end ProtocolGateway.Log

/-!
# Termination signals

The two signals that end a process. Once handlers are installed, signals are kept until somebody
waits for one; several of a kind count as one.
-/

namespace ProtocolGateway

/-- A signal that ends the process. -/
inductive Signal where
  | interrupt
  | terminate
deriving DecidableEq, Repr

/-- The name of a signal. -/
def Signal.name : Signal → String
  | .interrupt => "SIGINT"
  | .terminate => "SIGTERM"

/-- The signal with a name. -/
def Signal.ofName? (name : String) : Option Signal :=
  [Signal.interrupt, .terminate].find? (·.name = name)

/-- Installed handlers with the signals that nobody has waited for. -/
structure SignalHandlers where
  /-- Whether an interrupt is pending. -/
  interrupt : Bool := false
  /-- Whether a termination is pending. -/
  terminate : Bool := false
deriving DecidableEq, Repr

namespace SignalHandlers

/-- Delivers a signal. -/
def raise (signal : Signal) (h : SignalHandlers) : SignalHandlers :=
  match signal with
  | .interrupt => { h with interrupt := true }
  | .terminate => { h with terminate := true }

/-- The signals that a wait can end with. -/
def pending (h : SignalHandlers) : List Signal :=
  (if h.interrupt then [.interrupt] else []) ++ (if h.terminate then [.terminate] else [])

/-- What a wait ends with, if any signal is pending. -/
def receive? (h : SignalHandlers) : Option Signal := h.pending.head?

end SignalHandlers

end ProtocolGateway

/-!
# Metrics

What the process counts. A metric is a name with labels; the counters of requests and of
connections only grow, and the readiness gauge shows the last state written.
-/

namespace ProtocolGateway

/-- A counter, a gauge, or the number of values in a histogram. -/
inductive Metric where
  /-- Finished requests. -/
  | requests (method route : String) (status : Nat)
  /-- Measured durations of requests. -/
  | durations (method route : String)
  /-- Connections whose protocol was found. -/
  | connections (protocol : String)
  /-- Connections that were dropped before that. -/
  | droppedConnections (reason : String)
  /-- One while the process is ready. -/
  | ready
  /-- Log lines or batches of them that could not be delivered. -/
  | shippingFailures
  /-- Log lines that were lost with them. -/
  | droppedLines
deriving DecidableEq, Repr

namespace Metric

/-- The name of a metric with its labels in alphabetical order. -/
def key : Metric → String
  | .requests method route status =>
    "gateway_requests_total\x7bmethod=" ++ method ++ ",route=" ++ route ++ ",status=" ++
      toString status ++ "\x7d"
  | .durations method route =>
    "gateway_request_duration_seconds\x7bmethod=" ++ method ++ ",route=" ++ route ++ "\x7d#count"
  | .connections protocol => "gateway_connections_total\x7bprotocol=" ++ protocol ++ "\x7d"
  | .droppedConnections reason =>
    "gateway_connections_dropped_total\x7breason=" ++ reason ++ "\x7d"
  | .ready => "gateway_ready\x7b\x7d"
  | .shippingFailures => "gateway_log_shipping_failures_total\x7b\x7d"
  | .droppedLines => "gateway_log_lines_dropped_total\x7b\x7d"

end Metric

/-- The metrics that were touched, with their values. -/
abbrev Metrics := List (Metric × Nat)

namespace Metrics

/-- The value of a metric, if it was touched. -/
def value? (m : Metric) : Metrics → Option Nat
  | [] => none
  | (k, n) :: rest => if k = m then some n else value? m rest

/-- Changes the value of a metric, starting from zero. -/
def modify (m : Metric) (f : Nat → Nat) : Metrics → Metrics
  | [] => [(m, f 0)]
  | (k, n) :: rest => if k = m then (k, f n) :: rest else (k, n) :: modify m f rest

/-- Adds to a counter. -/
def add (m : Metric) (amount : Nat) (metrics : Metrics) : Metrics := metrics.modify m (· + amount)

/-- Writes a gauge. -/
def set (m : Metric) (value : Nat) (metrics : Metrics) : Metrics := metrics.modify m fun _ => value

/-- Counts a finished request. -/
def addRequest (method route : String) (status : Nat) (metrics : Metrics) : Metrics :=
  (metrics.add (.requests method route status) 1).add (.durations method route) 1

/-- Counts log lines that could not be delivered. -/
def addShippingFailure (lines : Nat) (metrics : Metrics) : Metrics :=
  (metrics.add .shippingFailures 1).add .droppedLines lines

variable {m k : Metric} {f : Nat → Nat} {metrics : Metrics}

theorem value?_modify_self :
    (metrics.modify m f).value? m = some (f ((metrics.value? m).getD 0)) := by
  induction metrics with
  | nil => exact if_pos rfl
  | cons entry rest ih =>
    obtain ⟨k, n⟩ := entry
    by_cases h : k = m
    · rw [modify, if_pos h, value?, if_pos h, value?, if_pos h]; rfl
    · rw [modify, if_neg h, value?, if_neg h, value?, if_neg h, ih]

theorem value?_modify_of_ne (h : m ≠ k) : (metrics.modify m f).value? k = metrics.value? k := by
  induction metrics with
  | nil => exact if_neg h
  | cons entry rest ih =>
    obtain ⟨l, n⟩ := entry
    by_cases hl : l = m
    · have hlk : l ≠ k := fun hk => h (hl.symm.trans hk)
      rw [modify, if_pos hl, value?, if_neg hlk, value?, if_neg hlk]
    · rw [modify, if_neg hl, value?, value?, ih]

theorem value_add {n : Nat} :
    ((metrics.add k n).value? m).getD 0 = (metrics.value? m).getD 0 + if k = m then n else 0 := by
  by_cases h : k = m
  · subst h
    rw [add, value?_modify_self, if_pos rfl, Option.getD_some]
  · rw [add, value?_modify_of_ne h, if_neg h, Nat.add_zero]

end Metrics

end ProtocolGateway

import ProtocolGateway.Readiness

/-!
# Setting readiness side by side

A call that sets the readiness flag does so in one step, and writes the gauge in a second one if the
state has changed. Between the two, other calls may take their steps.

## Main definitions

* `ReadinessRace`: a flag and its gauge with the calls under way.
* `ReadinessRace.run`: the state after the calls have taken steps in some order.
-/

namespace ProtocolGateway

/-- How far a call has come. -/
inductive SetCall where
  /-- It has not touched the flag. -/
  | before (value : Bool)
  /-- It has changed the flag and will write the gauge. -/
  | writing (value : Nat)
  | returned
deriving DecidableEq, Repr

/-- A flag and its gauge with the calls under way. -/
structure ReadinessRace where
  flag : Readiness := .starting
  gauge : Option Nat := none
  calls : List SetCall
deriving DecidableEq, Repr

namespace ReadinessRace

/-- No call has begun. -/
def ofValues (values : List Bool) : ReadinessRace := { calls := values.map .before }

/-- The call at a place takes its next step. -/
def step (race : ReadinessRace) (place : Nat) : ReadinessRace :=
  match race.calls[place]? with
  | some (.before value) =>
    let (flag, notice) := race.flag.set value
    let call := match notice.bind (·.gauge?) with
      | some n => SetCall.writing n
      | none => .returned
    { race with flag, calls := race.calls.set place call }
  | some (.writing n) => { race with gauge := some n, calls := race.calls.set place .returned }
  | _ => race

/-- The state after calls have taken steps, in the order of their places. -/
def run (race : ReadinessRace) (places : List Nat) : ReadinessRace := places.foldl step race

/-- Whether all calls have returned. -/
def isOver (race : ReadinessRace) : Bool := race.calls.all (· = .returned)

end ReadinessRace

end ProtocolGateway

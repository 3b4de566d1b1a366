import ProtocolGateway.Deadline

/-!
# The timers of deadline scopes

`Scopes.step` leaves nothing to run. But the timer of a scope is a task of its own. It is first run
some time after the scope is made, and counts from there; when it has counted to its end, it is some
time until it is run again and cancels the scope. In between, time passes, scopes are made, tokens
are cancelled and other timers are run. A token that is cancelled takes all tokens below it along at
the same moment, and a scope below a cancelled token is cancelled from the beginning.

## Main definitions

* `Scopes.act`: a step, without the timers.
* `Scopes.start`, `Scopes.fire`: the timer of a scope is run for the first time, and at its end.
* `Scopes.Quiet`: no timer is left to run.
* `Scopes.Prompt`: no time passes before a timer is first run.
-/

namespace ProtocolGateway

/-- How much time passes in a step. -/
def ScopeStep.time : ScopeStep → Nat
  | .advance time => time
  | .scope .. | .cancel _ => 0

/-- What can happen next: somebody takes a step, or a timer is run. -/
inductive ScopeMove where
  | act (step : ScopeStep)
  /-- A timer is run, so that it counts from now on at the latest. -/
  | start (token : Nat)
  /-- A timer is run, and cancels its scope if it has counted to its end. -/
  | fire (token : Nat)
deriving DecidableEq, Repr

namespace ScopeMove

/-- The step of a move, unless it is that of a timer. -/
def step? : ScopeMove → Option ScopeStep
  | .act step => some step
  | .start _ | .fire _ => none

/-- How much time passes in a move. -/
def time : ScopeMove → Nat
  | .act step => step.time
  | .start _ | .fire _ => 0

end ScopeMove

namespace Scope

/-- Whether the timer of a token has been run, if there is one. -/
def isStarted (s : Scope) : Bool := s.timer.all (·.since.isSome)

/-- Whether the timer of a token can be run: it has not been, or has counted to its end. -/
def hasTurn (now : Nat) (s : Scope) : Bool := !s.isStarted || s.isDue now

end Scope

namespace Scopes

/-- Cancels the tokens of a list, given those before them, that are chosen or have a cancelled
parent. -/
def passOn (chosen : Scope → Bool) (before : List Scope) : List Scope → List Scope
  | [] => before
  | s :: rest =>
    let cancelled := chosen s || s.parent.any (isCancelled before)
    passOn chosen (before ++ [{ s with cancelled }]) rest

/-- The tokens when a single one has been cancelled. -/
def mark (token : Nat) (scopes : List Scope) : List Scope :=
  scopes.modify token fun s => { s with cancelled := true }

/-- The tokens when a step has been taken, before anything is passed on. The timer of a scope that
is made has not been run. -/
def changed (t : Scopes) : ScopeStep → List Scope
  | .scope timeout parent => t.scopes ++ [⟨some parent, some { timeout }, false⟩]
  | .advance _ => t.scopes
  | .cancel token => mark token t.scopes

/-- Takes a step, without the timers. -/
def act (t : Scopes) (s : ScopeStep) : Scopes :=
  { now := t.now + s.time, scopes := passOn (·.cancelled) [] (t.changed s) }

/-- Runs the timer of a token for the first time. -/
def start (t : Scopes) (token : Nat) : Scopes :=
  { t with scopes := t.scopes.modify token (·.start t.now) }

/-- Runs the timer of a token at its end, if that is reached. -/
def fire (t : Scopes) (token : Nat) : Scopes :=
  if t.scopes[token]?.any (·.isDue t.now) then
    { t with scopes := passOn (·.cancelled) [] (mark token t.scopes) }
  else t

/-- Makes a move. -/
def move (t : Scopes) : ScopeMove → Scopes
  | .act step => t.act step
  | .start token => t.start token
  | .fire token => t.fire token

/-- Runs the timer of a token as far as that goes now. -/
def turn (t : Scopes) (token : Nat) : Scopes := (t.start token).fire token

/-- No timer is left to run. -/
def Quiet (t : Scopes) : Prop := ∀ s ∈ t.scopes, s.hasTurn t.now = true → s.cancelled = true

/-- No time passes before the timer of a scope is first run, unless the scope is cancelled. -/
def Prompt : Scopes → List ScopeMove → Prop
  | _, [] => True
  | t, m :: moves =>
    (0 < m.time → ∀ s ∈ t.scopes, s.cancelled = true ∨ s.isStarted = true) ∧
      Prompt (t.move m) moves

end Scopes

end ProtocolGateway

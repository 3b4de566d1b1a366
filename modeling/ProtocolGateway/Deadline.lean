/-!
# Deadline scopes

A token is cancelled once and for all. A scope is a token with a parent and a timer: it is cancelled
by itself, when its timer says so, or together with its parent, but never cancels its parent or a
sibling. Tokens are numbered in the order in which they are made, and the root, which has no timer,
is the first.

A timer is a task. It counts from the moment at which it is first run, which comes after its scope
is made. A step here leaves nothing to run: it ends when each timer has been run that can be, so a
timer counts from the moment at which its scope was made.

## Main definitions

* `Scopes`: the tokens at a moment.
* `Scopes.step`: makes a scope, lets time pass or cancels a token, and runs all timers then.
* `Scopes.cancelled`: which tokens are cancelled.
-/

namespace ProtocolGateway

/-- The timer of a scope. -/
structure ScopeTimer where
  /-- How long it takes. -/
  timeout : Nat
  /-- The moment at which it was first run, if it has been. -/
  since : Option Nat := none
deriving DecidableEq, Repr

namespace ScopeTimer

/-- Runs a timer, which begins to count if it has not been run before. -/
def start (now : Nat) (t : ScopeTimer) : ScopeTimer := { t with since := some (t.since.getD now) }

/-- Whether a timer has counted to its end. -/
def isDue (now : Nat) (t : ScopeTimer) : Bool := t.since.any (· + t.timeout ≤ now)

end ScopeTimer

/-- A token for cancellation. -/
structure Scope where
  /-- The place of the parent; the root has none. -/
  parent : Option Nat
  /-- The timer; the root has none. -/
  timer : Option ScopeTimer
  /-- Whether it is cancelled. -/
  cancelled : Bool
deriving DecidableEq, Repr

namespace Scope

/-- Runs the timer of a token. -/
def start (now : Nat) (s : Scope) : Scope := { s with timer := s.timer.map (·.start now) }

/-- Whether the timer of a token has counted to its end. -/
def isDue (now : Nat) (s : Scope) : Bool := s.timer.any (·.isDue now)

end Scope

/-- The tokens at a moment, the root first. -/
structure Scopes where
  /-- The current moment. -/
  now : Nat := 0
  /-- The tokens in the order in which they were made. -/
  scopes : List Scope := [⟨none, none, false⟩]
deriving DecidableEq, Repr

/-- What can be done with tokens. -/
inductive ScopeStep where
  /-- Makes a scope below a token. -/
  | scope (timeout : Nat) (parent : Nat)
  /-- Lets time pass. -/
  | advance (time : Nat)
  /-- Cancels a token. -/
  | cancel (token : Nat)
deriving DecidableEq, Repr

namespace Scopes

/-- Whether a token is cancelled. -/
def isCancelled (scopes : List Scope) (i : Nat) : Bool :=
  match scopes[i]? with
  | none => false
  | some s => s.cancelled

/-- Runs the timers of the tokens of a list, given the tokens before them. Those that are due or
have a cancelled parent are cancelled. A parent stands before its children: one pass is enough. -/
def settle (now : Nat) (before : List Scope) : List Scope → List Scope
  | [] => before
  | s :: rest =>
    let run := s.start now
    let withParent := s.parent.any (isCancelled before)
    settle now
      (before ++ [{ run with cancelled := s.cancelled || run.isDue now || withParent }]) rest

/-- Performs a step and runs all timers then. -/
def step (t : Scopes) : ScopeStep → Scopes
  | .scope timeout parent =>
    let made : Scope := ⟨some parent, some { timeout }, false⟩
    { t with scopes := settle t.now [] (t.scopes ++ [made]) }
  | .advance time =>
    { now := t.now + time, scopes := settle (t.now + time) [] t.scopes }
  | .cancel token =>
    let marked := t.scopes.modify token fun s => { s with cancelled := true }
    { t with scopes := settle t.now [] marked }

/-- Which tokens are cancelled, in their order. -/
def cancelled (t : Scopes) : List Bool := t.scopes.map (·.cancelled)

/-- The tokens after each step. -/
def run (t : Scopes) : List ScopeStep → List Scopes
  | [] => []
  | s :: steps => t.step s :: run (t.step s) steps

end Scopes

end ProtocolGateway

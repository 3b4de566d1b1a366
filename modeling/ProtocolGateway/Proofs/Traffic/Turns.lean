import ProtocolGateway.Traffic.Slots

/-!
# Clients take turns

Whatever clients, attempts to accept and closings come in a row, no slot is lost and none is made:
the free ones and the held ones are as many as there were at the beginning. Clients are numbered in
the order in which they connect, and they are accepted in that order, each once: those accepted so
far and those that wait are all clients in their order.

## Main definitions

* `Slots.after`: the slots after some steps.
* `Slots.acceptedIn`: the clients that were accepted in a run.
* `Slots.Moves`: what a step can do.
* `Slots.Keeps`: what holds of slots at any time.

## Main results

* `Slots.moves_step`: a step does nothing else.
* `Slots.Keeps.run`: what holds at any time holds after any run.
* `Slots.clients_take_turns`: slots are kept and clients take turns.
-/

namespace ProtocolGateway

/-- The client that was accepted. -/
def SlotResult.client? : SlotResult → Option Nat
  | .accepted client => some client
  | _ => none

namespace Slots

variable {max connects connection client : Nat} {reachable : Bool} {accepted : List Nat}
variable {s s' : Slots} {e : SlotStep} {r : SlotResult}

/-- The slots after some steps. -/
def after (reachable : Bool) (s : Slots) (steps : List SlotStep) : Slots :=
  steps.foldl (fun s e => (s.step reachable e).1) s

/-- The clients that were accepted in a run, in the order in which that was done. -/
def acceptedIn (results : List (Slots × SlotResult)) : List Nat :=
  results.filterMap fun result => result.2.client?

/-- How many clients connect in some steps. -/
def connectsIn (reachable : Bool) (steps : List SlotStep) : Nat :=
  if reachable then steps.count .connect else 0

theorem run_concat (steps : List SlotStep) (e : SlotStep) :
    s.run reachable (steps ++ [e]) =
      s.run reachable steps ++ [(s.after reachable steps).step reachable e] := by
  induction steps generalizing s with
  | nil => rfl
  | cons e' steps ih => exact congrArg _ ih

/-! ### What a step can do -/

/-- What a step can do, and what comes of it. -/
inductive Moves (reachable : Bool) (s : Slots) : SlotStep → Slots → SlotResult → Prop where
  | unreached (hhost : reachable = false) : Moves reachable s .connect s (.connected false)
  | connect (hhost : reachable = true) : Moves reachable s .connect s.connect (.connected true)
  | accept (client : Nat) (waiting : List Nat) (hfree : 0 < s.free)
    (hwaiting : s.waiting = client :: waiting) :
    Moves reachable s .accept
      { s with free := s.free - 1, waiting, held := s.held ++ [true] } (.accepted client)
  | giveUp (hwait : s.free = 0 ∨ s.waiting = []) : Moves reachable s .accept s .pending
  | release (connection : Nat) (hheld : s.held[connection]? = some true) :
    Moves reachable s (.release connection)
      { s with free := s.free + 1, held := s.held.set connection false } (.released true)
  | keep (connection : Nat) (hheld : s.holds connection = false) :
    Moves reachable s (.release connection) s (.released false)

/-- A slot that was taken and given back is free again. -/
theorem giveBack_of_acquire? (h : s.acquire? = some s') : s'.giveBack = s := by
  rw [acquire?] at h
  split at h
  · cases h
  · next hfree =>
    obtain rfl := Option.some.inj h
    show { s with free := s.free - 1 + 1 } = s
    rw [Nat.sub_add_cancel (Nat.pos_of_ne_zero hfree)]

theorem moves_accept :
    s.Moves reachable .accept (s.step reachable .accept).1 (s.step reachable .accept).2 := by
  by_cases hfree : s.free = 0
  · have hnone : s.accept = (s, none) := by simp [Slots.accept, acquire?, hfree]
    rw [step, hnone]
    exact .giveUp (.inl hfree)
  · have hacquire : s.acquire? = some { s with free := s.free - 1 } := if_neg hfree
    cases hwaiting : s.waiting with
    | nil =>
      have hnone : s.accept = ({ s with free := s.free - 1 }.giveBack, none) := by
        rw [Slots.accept, hacquire]
        simp only
        split
        · rfl
        · next hsome => exact absurd (hwaiting.symm.trans hsome) (List.cons_ne_nil _ _).symm
      rw [step, hnone, giveBack_of_acquire? hacquire]
      exact .giveUp (.inr hwaiting)
    | cons client waiting =>
      have hsome : s.accept =
          ({ s with free := s.free - 1, waiting, held := s.held ++ [true] }, some client) := by
        simp only [Slots.accept, hacquire, hwaiting]
      rw [step, hsome]
      exact .accept client waiting (Nat.pos_of_ne_zero hfree) hwaiting

theorem moves_release (connection : Nat) :
    s.Moves reachable (.release connection) (s.step reachable (.release connection)).1
      (s.step reachable (.release connection)).2 := by
  show s.Moves reachable (.release connection) (s.release connection)
    (.released (s.holds connection))
  cases hholds : s.holds connection with
  | false =>
    have hsame : s.release connection = s := by simp [release, hholds]
    rw [hsame]
    exact .keep connection hholds
  | true =>
    have hheld : s.held[connection]? = some true := by
      rw [holds] at hholds
      cases hget : s.held[connection]? with
      | none => simp [hget] at hholds
      | some held => simpa [hget] using hholds
    rw [release, if_pos hholds]
    exact .release connection hheld

/-- **A step does nothing else.** -/
theorem moves_step (reachable : Bool) (s : Slots) (e : SlotStep) :
    s.Moves reachable e (s.step reachable e).1 (s.step reachable e).2 := by
  cases e with
  | connect =>
    cases reachable with
    | false => exact .unreached rfl
    | true => exact .connect rfl
  | accept => exact moves_accept
  | release connection => exact moves_release connection

/-! ### What holds at any time -/

/-- What holds of slots at any time: none is lost or made, and the clients that were accepted and
those that wait are all that have connected, in their order. -/
structure Keeps (max connects : Nat) (accepted : List Nat) (s : Slots) : Prop where
  total : s.free + s.heldCount = max
  clients : s.clients = connects
  order : accepted ++ s.waiting = List.range s.clients

theorem keeps_ofMax (max : Nat) : (ofMax max).Keeps max 0 [] := ⟨rfl, rfl, rfl⟩

theorem heldCount_set_false (h : s.held[connection]? = some true) :
    (s.held.set connection false).count true + 1 = s.heldCount := by
  obtain ⟨hlt, htrue⟩ := List.getElem?_eq_some_iff.1 h
  have hpos : 0 < s.held.count true := List.count_pos_iff.2 (htrue ▸ List.getElem_mem hlt)
  rw [List.count_set hlt, htrue, heldCount]
  simp only [beq_self_eq_true, if_true]
  show s.held.count true - 1 + 0 + 1 = s.held.count true
  omega

theorem Moves.keeps (h : s.Moves reachable e s' r) (hs : s.Keeps max connects accepted) :
    s'.Keeps max (connects + connectsIn reachable [e]) (accepted ++ r.client?.toList) := by
  obtain ⟨htotal, hclients, horder⟩ := hs
  cases h with
  | unreached hhost =>
    subst hhost
    exact ⟨htotal, hclients, by simpa [SlotResult.client?] using horder⟩
  | connect hhost =>
    subst hhost
    refine ⟨htotal, congrArg (· + 1) hclients, ?_⟩
    show accepted ++ [] ++ (s.waiting ++ [s.clients]) = List.range (s.clients + 1)
    rw [List.append_nil, ← List.append_assoc, horder, List.range_succ]
  | accept client waiting hfree hwaiting =>
    refine ⟨?_, ?_, ?_⟩
    · show s.free - 1 + (s.held ++ [true]).count true = max
      rw [List.count_append]
      show s.free - 1 + (s.heldCount + 1) = max
      omega
    · show s.clients = connects + connectsIn reachable [.accept]
      cases reachable <;> exact hclients
    · show accepted ++ [client] ++ waiting = List.range s.clients
      rw [← horder, hwaiting, List.append_assoc]
      rfl
  | giveUp _ | keep _ _ =>
    refine ⟨htotal, ?_, by simpa [SlotResult.client?] using horder⟩
    cases reachable <;> exact hclients
  | release connection hheld =>
    refine ⟨?_, ?_, by simpa [SlotResult.client?] using horder⟩
    · show s.free + 1 + (s.held.set connection false).count true = max
      have hcount := heldCount_set_false hheld
      omega
    · show s.clients = connects + connectsIn reachable [.release connection]
      cases reachable <;> exact hclients

theorem connectsIn_cons (steps : List SlotStep) :
    connectsIn reachable (e :: steps) = connectsIn reachable [e] + connectsIn reachable steps := by
  cases reachable with
  | false => rfl
  | true =>
    show ([e] ++ steps).count .connect = [e].count .connect + steps.count .connect
    exact List.count_append

/-- **What holds at any time holds after any run.** -/
theorem Keeps.run (h : s.Keeps max connects accepted) (steps : List SlotStep) :
    (s.after reachable steps).Keeps max (connects + connectsIn reachable steps)
      (accepted ++ acceptedIn (s.run reachable steps)) := by
  induction steps generalizing s connects accepted with
  | nil =>
    have hnone : connectsIn reachable [] = 0 := by cases reachable <;> rfl
    rw [hnone]
    simpa [after, Slots.run, acceptedIn] using h
  | cons e steps ih =>
    have hrest := ih ((moves_step reachable s e).keeps h)
    have haccepted : acceptedIn (s.run reachable (e :: steps)) =
        (s.step reachable e).2.client?.toList ++
          acceptedIn ((s.step reachable e).1.run reachable steps) := by
      rw [Slots.run, acceptedIn, List.filterMap_cons]
      cases (s.step reachable e).2.client? <;> rfl
    rw [connectsIn_cons, haccepted, ← Nat.add_assoc, ← List.append_assoc]
    exact hrest

/-! ### Turns -/

/-- An attempt to accept succeeds with the client that waits longest, if there are a slot and a
client, and is given up without a trace otherwise. -/
theorem step_accept (reachable : Bool) (s : Slots) :
    s.step reachable .accept =
      if 0 < s.free ∧ s.waiting ≠ [] then
        ({ s with free := s.free - 1, waiting := s.waiting.tail, held := s.held ++ [true] },
          .accepted (s.waiting.headD 0))
      else (s, .pending) := by
  have hmoves := moves_step reachable s .accept
  generalize hstep : s.step reachable .accept = result at hmoves
  obtain ⟨s', r⟩ := result
  cases hmoves with
  | accept client waiting hfree hwaiting => simp [hfree, hwaiting]
  | giveUp hwait =>
    rw [if_neg]
    rintro ⟨hfree, hwaiting⟩
    rcases hwait with hnone | hnone
    · omega
    · exact hwaiting hnone

theorem step_accept_eq_accepted_iff :
    (s.step reachable .accept).2 = .accepted client ↔
      0 < s.free ∧ s.waiting.head? = some client := by
  rw [step_accept]
  cases hwaiting : s.waiting with
  | nil => simp
  | cons first waiting =>
    by_cases hfree : 0 < s.free
    · simp [hfree]
    · simp [hfree]

/-- A connection that was closed holds no slot. -/
theorem step_release_release (reachable : Bool) (s : Slots) (connection : Nat) :
    (s.step reachable (.release connection)).1.step reachable (.release connection) =
      ((s.step reachable (.release connection)).1, .released false) := by
  have hfree : (s.release connection).holds connection = false := by
    cases hholds : s.holds connection with
    | false => rw [release, hholds, if_neg Bool.false_ne_true, hholds]
    | true =>
      rw [release, hholds, if_pos rfl, holds, List.getElem?_set_self']
      cases s.held[connection]? <;> rfl
  show ((s.release connection).release connection,
    SlotResult.released ((s.release connection).holds connection)) =
      (s.release connection, .released false)
  rw [hfree, release, hfree, if_neg Bool.false_ne_true]

theorem free_step_release (reachable : Bool) (s : Slots) (connection : Nat) :
    (s.step reachable (.release connection)).1.free =
      s.free + if s.holds connection then 1 else 0 := by
  show (s.release connection).free = _
  rw [release]
  split
  · rfl
  · rfl

/-- **Slots are kept and clients take turns**, however many slots there are and whatever happens.
After any steps the free slots and the held ones are all of them, and the clients accepted so far
and those that wait are all clients in the order in which they have connected. An attempt to accept
succeeds if and only if a slot is free and a client waits, with the one that has waited longest; an
attempt that is given up, without a slot or with one in hand, changes nothing. Closing a connection
frees its slot, and closing it again frees nothing. -/
theorem clients_take_turns (max : Nat) (reachable : Bool) (steps : List SlotStep) :
    let s := (ofMax max).after reachable steps
    let accepted := acceptedIn ((ofMax max).run reachable steps)
    s.free + s.heldCount = max ∧
    s.clients = connectsIn reachable steps ∧
    accepted ++ s.waiting = List.range s.clients ∧
    (∀ e, (ofMax max).run reachable (steps ++ [e]) =
      (ofMax max).run reachable steps ++ [s.step reachable e]) ∧
    (∀ client, (s.step reachable .accept).2 = .accepted client ↔
      0 < s.free ∧ s.waiting.head? = some client) ∧
    (s.step reachable .accept =
      if 0 < s.free ∧ s.waiting ≠ [] then
        ({ s with free := s.free - 1, waiting := s.waiting.tail, held := s.held ++ [true] },
          .accepted (s.waiting.headD 0))
      else (s, .pending)) ∧
    (∀ s', s.acquire? = some s' → s'.giveBack = s) ∧
    ∀ connection,
      let released := (s.step reachable (.release connection)).1
      (released.free = s.free + if s.holds connection then 1 else 0) ∧
      released.waiting = s.waiting ∧
      released.step reachable (.release connection) = (released, .released false) := by
  intro s accepted
  have hkeeps : s.Keeps max _ _ := (keeps_ofMax max).run steps
  obtain ⟨htotal, hclients, horder⟩ := hkeeps
  rw [Nat.zero_add] at hclients
  refine ⟨htotal, hclients, horder, run_concat steps, fun client => step_accept_eq_accepted_iff,
    step_accept reachable s, fun s' => giveBack_of_acquire?, fun connection =>
      ⟨free_step_release reachable s connection, ?_, step_release_release reachable s connection⟩⟩
  show (s.release connection).waiting = s.waiting
  rw [release]
  split
  · rfl
  · rfl

/-- Two clients at one slot: the second is accepted when the first has been closed, twice. -/
example : acceptedIn ((ofMax 1).run true [.accept, .connect, .connect, .accept, .accept,
    .release 0, .release 0, .accept, .accept]) = [0, 1] := by decide

end Slots

end ProtocolGateway

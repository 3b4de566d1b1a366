import ProtocolGateway.Proofs.Traffic.Moves

/-!
# Every connection has its place, and its slot

A connection that was accepted is in one place at any time: its first bytes are read, it is handed
over, it waits in a queue, it is served, or it is closed. No step forgets one or doubles one, so the
places together are a rearrangement of the numbers of all that were accepted.

A slot is taken before a client is waited for, goes along with the connection from place to place,
and is free again when the connection is closed. Since each connection has one place only, it cannot
give back its slot twice, nor keep it.

## Main definitions

* `Traffic.openConnections`, `Traffic.connections`: the open connections, and all of them.
* `Traffic.Settled`: what holds of places and slots at any time.

## Main results

* `Traffic.settled_run`: it does.
* `Traffic.slots_balance`: free slots, open connections and the slot in hand make up all slots.
-/

namespace ProtocolGateway

namespace Server

/-- The connections that a server has. -/
def held (s : Server) : List Nat := s.queue ++ s.serving

variable {s s' : Server} {i : Nat} {e : TrafficStep}

/-- What a server does by itself moves its connections at most. -/
theorem Turns.count_held (h : s.Turns i e s') (c : Nat) : s'.held.count c = s.held.count c := by
  cases h with
  | take connection queue _ hqueue =>
    simp only [held, hqueue, List.count_append, List.count_cons, List.count_nil]
    omega
  | notice => rfl
  | stop => rfl

/-- A connection that is taken out of a list is missing there once. -/
theorem count_erase_add {l : List Nat} {c : Nat} (hc : c ∈ l) (d : Nat) :
    (l.erase c).count d + [c].count d = l.count d := by
  have hmoved := (List.perm_cons_erase hc).count_eq d
  rw [List.count_cons] at hmoved
  rw [List.count_singleton, hmoved]

theorem count_held_enqueue (c d : Nat) :
    (s.enqueue c).held.count d = s.held.count d + [c].count d := by
  simp only [held, enqueue, List.count_append]
  omega

theorem count_held_finish {c : Nat} (hc : c ∈ s.serving) (d : Nat) :
    (s.finish c).held.count d + [c].count d = s.held.count d := by
  have hmoved := count_erase_add hc d
  simp only [held, finish, List.count_append]
  omega

/-- A server that has ended has no connections. -/
theorem Ends.held_eq_nil (h : s.Ends i e s') : s'.held = [] := by
  cases h <;> rfl

end Server

namespace Traffic

/-- The connections that are open, place by place. -/
def openConnections (t : Traffic) : List Nat :=
  t.peeking ++ t.handing.map Prod.fst ++ t.servers.flatMap (·.held)

/-- All connections, the open ones and those that are closed. -/
def connections (t : Traffic) : List Nat := t.openConnections ++ t.closed.map Prod.fst

theorem length_openConnections (t : Traffic) : t.openConnections.length = t.openCount := by
  have hservers (servers : List Server) : (servers.flatMap (·.held)).length =
      total (servers.map fun s => s.queue.length + s.serving.length) := by
    induction servers with
    | nil => rfl
    | cons s rest ih =>
      rw [List.flatMap_cons, List.length_append, ih, Server.held, List.length_append, List.map_cons,
        total]
  rw [openConnections, List.length_append, List.length_append, List.length_map, hservers, openCount]

/-! ### Places -/

/-- How often a connection occurs in the places. -/
theorem count_connections (t : Traffic) (c : Nat) :
    t.connections.count c = t.peeking.count c + (t.handing.map Prod.fst).count c +
      (t.servers.flatMap (·.held)).count c + (t.closed.map Prod.fst).count c := by
  simp only [connections, openConnections, List.count_append]

theorem count_flatMap_set {servers : List Server} {i : Nat} {s : Server}
    (hs : servers[i]? = some s) (s' : Server) (c : Nat) :
    ((servers.set i s').flatMap (·.held)).count c + s.held.count c =
      (servers.flatMap (·.held)).count c + s'.held.count c := by
  induction servers generalizing i with
  | nil => cases hs
  | cons r rest ih =>
    cases i with
    | zero =>
      obtain rfl := Option.some.inj hs
      simp only [List.set_cons_zero, List.flatMap_cons, List.count_append]
      omega
    | succ i =>
      have hrest := ih hs
      simp only [List.set_cons_succ, List.flatMap_cons, List.count_append]
      omega

theorem count_close (connections : List Nat) (closing : Closing) (t : Traffic) (c : Nat) :
    (t.close connections closing).connections.count c =
      t.connections.count c + connections.count c := by
  have hnew : (connections.map fun c => (c, closing)).map Prod.fst = connections := by
    rw [List.map_map]
    exact List.map_id connections
  simp only [count_connections, close, List.map_append, List.count_append, hnew]
  omega

theorem count_put {t : Traffic} {i : Nat} {s : Server} (hs : t.servers[i]? = some s) (s' : Server)
    (c : Nat) :
    (t.put i s').connections.count c + s.held.count c =
      t.connections.count c + s'.held.count c := by
  have hservers := count_flatMap_set hs s' c
  simp only [count_connections, put]
  omega

variable {t t' : Traffic} {e : TrafficStep}

@[simp] theorem accepted_put (i : Nat) (s : Server) (t : Traffic) :
    (t.put i s).accepted = t.accepted := rfl

@[simp] theorem accepted_close (connections : List Nat) (closing : Closing) (t : Traffic) :
    (t.close connections closing).accepted = t.accepted := rfl

theorem count_erase_handing {c i : Nat} (hc : (c, i) ∈ t.handing) (d : Nat) :
    ({ t with handing := t.handing.erase (c, i) } : Traffic).connections.count d + [c].count d =
      t.connections.count d := by
  have hmoved := ((List.perm_cons_erase hc).map Prod.fst).count_eq d
  simp only [List.map_cons, List.count_cons] at hmoved
  simp only [count_connections, List.count_singleton]
  omega

/-- A step moves connections from place to place, and accepts one at most. -/
theorem Moves.count_connections (h : t.Moves e t') (d : Nat) :
    t'.connections.count d + (List.range t.accepted).count d =
      t.connections.count d + (List.range t'.accepted).count d := by
  cases h with
  | connect | takeSlot | acceptFails | stopAccepting => rfl
  | accept =>
    simp only [Traffic.count_connections, List.range_succ, List.count_append]
    omega
  | drop c reason hc =>
    have hmoved := Server.count_erase_add hc d
    rw [count_close, accepted_close]
    simp only [Traffic.count_connections]
    omega
  | classify c i s hs hc =>
    have hmoved := Server.count_erase_add hc d
    simp only [Traffic.count_connections, List.map_append, List.map_cons, List.map_nil,
      List.count_append]
    omega
  | refuse c i s hc hs hlistens =>
    have hmoved := count_erase_handing (List.mem_of_find?_eq_some hc) d
    rw [count_close]
    dsimp only [accepted_close]
    omega
  | enqueue c i s hc hs hlistens hroom =>
    have hmoved := count_erase_handing (List.mem_of_find?_eq_some hc) d
    have hput := count_put (t := { t with handing := t.handing.erase (c, i) }) hs (s.enqueue c) d
    rw [Server.count_held_enqueue] at hput
    dsimp only [accepted_put]
    omega
  | exhaust i s hs =>
    have hput := count_put hs { s with stage := .exhausted } d
    exact congrArg (· + _) (Nat.add_right_cancel hput)
  | finish i c s hs hc =>
    have hput := count_put hs (s.finish c) d
    have hmoved := Server.count_held_finish hc d
    rw [count_close, accepted_close, accepted_put]
    omega
  | @turn i _ s s' hs hturns =>
    have hput := count_put hs s' d
    rw [hturns.count_held] at hput
    rw [accepted_put]
    omega
  | @ending i _ s s' hs hends =>
    have hput := count_put hs s' d
    rw [hends.held_eq_nil, Server.held, List.count_append, List.count_nil] at hput
    rw [count_close, count_close, accepted_close, accepted_close, accepted_put]
    omega

/-! ### Slots -/

/-- A slot is taken, handed on, and given back. -/
theorem Moves.slots (h : t.Moves e t') :
    t'.free + t'.inHand + t'.accepted + t.closed.length =
      t.free + t.inHand + t.accepted + t'.closed.length := by
  cases h with
  | connect | classify | enqueue | exhaust | turn => rfl
  | takeSlot hloop hfree =>
    simp only [inHand, hloop]
    simp
    omega
  | accept hloop =>
    simp only [inHand, hloop]
    simp
    omega
  | acceptFails hloop =>
    simp only [inHand, hloop]
    simp
  | stopAccepting => simp [inHand]
  | drop c reason hc => simp [inHand, close]; omega
  | refuse => simp [inHand, close]; omega
  | finish => simp [inHand, close, put]; omega
  | ending => simp [inHand, close, put]; omega

/-! ### Along a run -/

/-- What holds of places and slots at any time. -/
structure Settled (slots : Nat) (t : Traffic) : Prop where
  /-- Each connection that was accepted has one place. -/
  places : t.connections.Perm (List.range t.accepted)
  /-- Each has a slot, and those that are closed have given it back. -/
  slots : t.free + t.inHand + t.accepted = slots + t.closed.length

theorem settled_ofSlots (slots : Nat) (protocols : List String) :
    (ofSlots slots protocols).Settled slots where
  places := by
    have hheld : (protocols.map fun protocol => ({ protocol } : Server)).flatMap (·.held) = [] := by
      rw [List.flatMap_eq_nil_iff]
      intro s hs
      obtain ⟨protocol, -, rfl⟩ := List.mem_map.1 hs
      rfl
    simp [connections, openConnections, ofSlots, hheld]
  slots := rfl

theorem Settled.step {slots : Nat} (h : t.Settled slots) (e : TrafficStep) :
    (t.step e).Settled slots := by
  rcases t.step_cases e with hsame | hmoves
  · rwa [hsame]
  · refine ⟨List.perm_iff_count.2 fun d => ?_, ?_⟩
    · have hcount := hmoves.count_connections d
      have hplaces := h.places.count_eq d
      omega
    · have hslots := hmoves.slots
      have hbefore := h.slots
      omega

theorem Settled.run {slots : Nat} (h : t.Settled slots) (steps : List TrafficStep) :
    (t.run steps).Settled slots := by
  induction steps generalizing t with
  | nil => exact h
  | cons e steps ih => exact ih (h.step e)

/-- **Every connection has its place and its slot**, whatever the order of the steps. -/
theorem settled_run (slots : Nat) (protocols : List String) (steps : List TrafficStep) :
    ((ofSlots slots protocols).run steps).Settled slots :=
  (settled_ofSlots slots protocols).run steps

/-- No connection is in two places. -/
theorem Settled.nodup {slots : Nat} (h : t.Settled slots) : t.connections.Nodup :=
  h.places.nodup_iff.2 List.nodup_range

/-- When all connections are closed, none is open. -/
theorem Settled.openConnections_eq_nil {slots : Nat} (h : t.Settled slots)
    (hclosed : ∀ c < t.accepted, c ∈ t.closed.map Prod.fst) : t.openConnections = [] := by
  refine List.eq_nil_iff_forall_not_mem.2 fun c hc => ?_
  have hlt : c < t.accepted := List.mem_range.1 (h.places.subset (List.mem_append_left _ hc))
  exact (List.nodup_append.1 h.nodup).2.2 c hc c (hclosed c hlt) rfl

/-- The slots that are free, those of the open connections and the one in hand are all slots. -/
theorem Settled.balance {slots : Nat} (h : t.Settled slots) :
    t.free + t.openCount + t.inHand = slots := by
  have hlength := h.places.length_eq
  rw [connections, List.length_append, List.length_map, List.length_range,
    length_openConnections] at hlength
  have hslots := h.slots
  omega

/-- **No slot is lost or given back twice, and no connection is open without one.** In whatever
order clients connect, connections are dropped, handed over, refused, queued, served, finished and
cut off, and the accept loop is stopped: every accepted connection is in one place, open or closed
for good; the open ones are as many as there are slots at most; together with the free slots and
the one that the accept loop has in hand they are all slots; and all are free again when the loop
has stopped and every connection is closed. -/
theorem slots_balance (slots : Nat) (protocols : List String) (steps : List TrafficStep) :
    let t := (ofSlots slots protocols).run steps
    (t.openConnections ++ t.closed.map Prod.fst).Perm (List.range t.accepted) ∧
      t.openConnections.length = t.openCount ∧
      t.openCount ≤ slots ∧
      t.free + t.openCount + t.inHand = slots ∧
      (t.loop = .stopped → (∀ c < t.accepted, c ∈ t.closed.map Prod.fst) → t.free = slots) := by
  intro t
  have hsettled : t.Settled slots := settled_run slots protocols steps
  have hbalance := hsettled.balance
  refine ⟨hsettled.places, t.length_openConnections, by omega, hbalance, fun hloop hclosed => ?_⟩
  have hopen : t.openCount = 0 := by
    rw [← length_openConnections, hsettled.openConnections_eq_nil hclosed, List.length_nil]
  have hhand : t.inHand = 0 := by rw [inHand, hloop]; rfl
  omega

/-- One connection is cut off and the other one is never handed over; both slots are free again. -/
theorem slots_return :
    ((ofSlots 2 ["http1", "http2"]).run
      [.connect, .connect, .takeSlot, .accept, .takeSlot, .accept, .classify 0 1, .handOver 0,
        .take 1, .drop 1 .timeout, .takeSlot, .stopAccepting, .stop 1, .expire 1]).free = 2 :=
  (slots_balance 2 ["http1", "http2"] _).2.2.2.2 rfl (by decide)

end Traffic

end ProtocolGateway

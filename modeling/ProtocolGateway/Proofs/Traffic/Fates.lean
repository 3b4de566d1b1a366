import Mathlib.Data.List.Nodup
import ProtocolGateway.Proofs.Peek.Decision
import ProtocolGateway.Proofs.Traffic.Places

/-!
# The way of one connection

A connection goes from place to place, and there are few ways to go: it is accepted; it is dropped,
or its protocol is found; it is handed to the server of that protocol and no other, if that still
listens, and is closed otherwise; it is served to its end; and if the server ends before that, it is
closed along with it.

So where a connection can be found tells what was decided on its first bytes, as long as decisions
are made by rule. A server that has noticed that no more connections can come has taken all that
were meant for it.

## Main definitions

* `Place`, `Traffic.places`: the places of all connections.
* `Traffic.Goes`: the ways to go.
* `Traffic.Leads`: the places to which an outcome leads.

## Main results

* `Traffic.goes_step`: a step takes connections no other way.
* `Traffic.exists_unique_place`: a connection is in one place.
* `Traffic.leads_run`: the place of a connection is one to which the decision on it leads.
* `Traffic.taken_of_exhausted`: what a server has taken when it sees the end.
-/

namespace ProtocolGateway

/-- Where a connection can be. -/
inductive Place where
  /-- Its first bytes are read. -/
  | peeking
  /-- It is handed to a server. -/
  | handing (server : Nat)
  /-- It waits in the queue of a server or is served. -/
  | server (server : Nat)
  | closed (closing : Closing)
deriving DecidableEq, Repr

/-- What a server does by itself brings it no connection. -/
theorem Server.Turns.held_subset {s s' : Server} {i : Nat} {e : TrafficStep} (h : s.Turns i e s') :
    s'.held ⊆ s.held := by
  intro c hc
  exact List.count_pos_iff.1 (h.count_held c ▸ List.count_pos_iff.2 hc)

/-- A step decides on a connection as is laid down for it, if it decides on one at all. -/
def TrafficStep.Follows (outcome : Nat → Peek.Outcome) : TrafficStep → Prop
  | .drop c reason => outcome c = .dropped reason
  | .classify c i => outcome c = .handler i
  | _ => True

instance (outcome : Nat → Peek.Outcome) : DecidablePred (TrafficStep.Follows outcome) := fun e => by
  cases e <;> unfold TrafficStep.Follows <;> infer_instance

namespace Traffic

/-- The places of all connections. -/
def places (t : Traffic) : List (Nat × Place) :=
  t.peeking.map (·, .peeking) ++ t.handing.map (fun (c, i) => (c, .handing i)) ++
    t.servers.zipIdx.flatMap (fun (s, i) => s.held.map (·, .server i)) ++
    t.closed.map fun (c, closing) => (c, .closed closing)

variable {t t' : Traffic} {e : TrafficStep} {c i : Nat} {s : Server} {place : Place}
variable {closing : Closing} {slots : Nat}

theorem map_fst_places (t : Traffic) : t.places.map Prod.fst = t.connections := by
  have hheld (servers : List Server) (n : Nat) :
      ((servers.zipIdx n).flatMap fun (s, i) => s.held.map (·, Place.server i)).map Prod.fst =
        servers.flatMap (·.held) := by
    induction servers generalizing n with
    | nil => rfl
    | cons s rest ih => simp [List.zipIdx_cons, ih, Function.comp_def]
  simp only [places, connections, openConnections, List.map_append, hheld, List.map_map,
    Function.comp_def, List.map_id']

@[simp] theorem mem_places_peeking : (c, .peeking) ∈ t.places ↔ c ∈ t.peeking := by
  simp [places]

@[simp] theorem mem_places_handing : (c, .handing i) ∈ t.places ↔ (c, i) ∈ t.handing := by
  simp [places]

@[simp] theorem mem_places_server :
    (c, .server i) ∈ t.places ↔ ∃ s, t.servers[i]? = some s ∧ c ∈ s.held := by
  simp only [places, List.mem_append, List.mem_map, Prod.mk.injEq, reduceCtorEq, and_false,
    exists_false, or_false, false_or, List.mem_flatMap, List.mem_zipIdx_iff_getElem?, Prod.exists,
    Place.server.injEq]
  constructor
  · rintro ⟨s, j, hs, d, hd, rfl, rfl⟩
    exact ⟨s, hs, hd⟩
  · rintro ⟨s, hs, hc⟩
    exact ⟨s, i, hs, c, hc, rfl, rfl⟩

@[simp] theorem mem_places_closed : (c, .closed closing) ∈ t.places ↔ (c, closing) ∈ t.closed := by
  simp [places]

/-- **A connection that was accepted is in one place.** -/
theorem exists_unique_place (h : t.Settled slots) (hc : c < t.accepted) :
    ∃! place, (c, place) ∈ t.places := by
  have hmem : c ∈ t.places.map Prod.fst := by
    rw [map_fst_places]
    exact h.places.mem_iff.2 (List.mem_range.2 hc)
  have hnodup : (t.places.map Prod.fst).Nodup := by
    rw [map_fst_places]
    exact h.nodup
  obtain ⟨⟨_, place⟩, hplace, rfl⟩ := List.mem_map.1 hmem
  exact ⟨place, hplace, fun other hother =>
    congrArg Prod.snd (List.inj_on_of_nodup_map hnodup hother hplace rfl)⟩

/-- The connections on which there is a decision. -/
def decided (t : Traffic) : List Nat :=
  t.handing.map Prod.fst ++ t.servers.flatMap (·.held) ++ t.closed.map Prod.fst

theorem Settled.peeking_append_decided (h : t.Settled slots) :
    (t.peeking ++ t.decided).Perm (List.range t.accepted) := by
  have hplaces := h.places
  rw [connections, openConnections, List.append_assoc, List.append_assoc] at hplaces
  rwa [decided, List.append_assoc]

/-! ### The ways to go -/

/-- The ways to go for a connection in a step. -/
inductive Goes (t : Traffic) (e : TrafficStep) (c : Nat) : Place → Prop where
  | accepted (he : e = .accept) (hc : c = t.accepted) : Goes t e c .peeking
  | dropped (reason : DropReason) (he : e = .drop c reason) (hc : (c, .peeking) ∈ t.places) :
    Goes t e c (.closed (.dropped reason))
  | classified (i : Nat) (he : e = .classify c i) (hc : (c, .peeking) ∈ t.places) :
    Goes t e c (.handing i)
  | unwanted (i : Nat) (s : Server) (he : e = .handOver c) (hc : (c, .handing i) ∈ t.places)
    (hs : t.servers[i]? = some s) (hlistens : s.listens = false) : Goes t e c (.closed .unwanted)
  | handedOver (i : Nat) (s : Server) (he : e = .handOver c) (hc : (c, .handing i) ∈ t.places)
    (hs : t.servers[i]? = some s) (hlistens : s.listens = true) : Goes t e c (.server i)
  | finished (i : Nat) (he : e = .finish i c) (hc : (c, .server i) ∈ t.places) :
    Goes t e c (.closed .finished)
  | ended (i : Nat) (s s' : Server) (closing : Closing) (hc : (c, .server i) ∈ t.places)
    (hs : t.servers[i]? = some s) (hends : s.Ends i e s')
    (hs' : (t.step e).servers[i]? = some s') (hclosing : closing = .unserved ∨ closing = .forced) :
    Goes t e c (.closed closing)

/-- Where a connection can be after a server was changed. -/
theorem mem_places_put (hs : t.servers[i]? = some s) {s' : Server}
    (h : (c, place) ∈ (t.put i s').places) :
    (c, place) ∈ t.places ∨ place = .server i ∧ c ∈ s'.held := by
  cases place with
  | peeking => exact .inl (by simpa [put] using h)
  | handing => exact .inl (by simpa [put] using h)
  | closed => exact .inl (by simpa [put] using h)
  | server j =>
    obtain ⟨r, hr, hc⟩ := mem_places_server.1 h
    rw [getElem?_put hs] at hr
    split at hr
    · next hij =>
      subst hij
      cases hr
      exact .inr ⟨rfl, hc⟩
    · exact .inl (mem_places_server.2 ⟨r, hr, hc⟩)

/-- Where a connection can be after some were closed. -/
theorem mem_places_close {connections : List Nat}
    (h : (c, place) ∈ (t.close connections closing).places) :
    (c, place) ∈ t.places ∨ place = .closed closing ∧ c ∈ connections := by
  cases place with
  | peeking => exact .inl (by simpa [close] using h)
  | handing => exact .inl (by simpa [close] using h)
  | server => exact .inl (by simpa [close] using h)
  | closed other =>
    rw [mem_places_closed, close, List.mem_append] at h
    rcases h with h | h
    · exact .inl (mem_places_closed.2 h)
    · obtain ⟨d, hd, heq⟩ := List.mem_map.1 h
      cases heq
      exact .inr ⟨rfl, hd⟩

theorem mem_places_of_erase_handing {handed : Nat × Nat}
    (h : (c, place) ∈ ({ t with handing := t.handing.erase handed } : Traffic).places) :
    (c, place) ∈ t.places := by
  cases place with
  | handing => exact mem_places_handing.2 (List.mem_of_mem_erase (mem_places_handing.1 h))
  | peeking | server | closed => simpa using h

theorem mem_places_of_erase_peeking {d : Nat} {metrics : Metrics}
    (h : (c, place) ∈ ({ t with peeking := t.peeking.erase d, metrics } : Traffic).places) :
    (c, place) ∈ t.places := by
  cases place with
  | peeking => exact mem_places_peeking.2 (List.mem_of_mem_erase (mem_places_peeking.1 h))
  | handing | server | closed => simpa using h

/-- A server that gets nothing takes no connection anywhere. -/
theorem mem_places_put_of_subset (hs : t.servers[i]? = some s) {s' : Server}
    (hheld : s'.held ⊆ s.held) (h : (c, place) ∈ (t.put i s').places) : (c, place) ∈ t.places := by
  rcases mem_places_put hs h with h | ⟨rfl, hc⟩
  · exact h
  · exact mem_places_server.2 ⟨s, hs, hheld hc⟩

/-- A move takes connections no other way. -/
theorem Moves.goes (h : t.Moves e t') (hstep : t.step e = t') (hc : (c, place) ∈ t'.places) :
    (c, place) ∈ t.places ∨ t.Goes e c place := by
  cases h with
  | connect | takeSlot | acceptFails | stopAccepting => exact .inl hc
  | accept =>
    cases place with
    | peeking =>
      rcases List.mem_append.1 (mem_places_peeking.1 hc) with hc | hc
      · exact .inl (mem_places_peeking.2 hc)
      · exact .inr (.accepted rfl (List.mem_singleton.1 hc))
    | handing | server | closed => exact .inl (by simpa using hc)
  | drop d reason hd =>
    rcases mem_places_close hc with hc | ⟨rfl, hmem⟩
    · exact .inl (mem_places_of_erase_peeking hc)
    · obtain rfl := List.mem_singleton.1 hmem
      exact .inr (.dropped reason rfl (mem_places_peeking.2 hd))
  | classify d i s hs hd =>
    cases place with
    | peeking =>
      exact .inl (mem_places_peeking.2 (List.mem_of_mem_erase (mem_places_peeking.1 hc)))
    | handing j =>
      rcases List.mem_append.1 (mem_places_handing.1 hc) with hc | hc
      · exact .inl (mem_places_handing.2 hc)
      · cases List.mem_singleton.1 hc
        exact .inr (.classified i rfl (mem_places_peeking.2 hd))
    | server | closed => exact .inl (by simpa using hc)
  | refuse d i s hd hs hlistens =>
    rcases mem_places_close hc with hc | ⟨rfl, hmem⟩
    · exact .inl (mem_places_of_erase_handing hc)
    · obtain rfl := List.mem_singleton.1 hmem
      have hhanding := mem_places_handing.2 (List.mem_of_find?_eq_some hd)
      exact .inr (.unwanted i s rfl hhanding hs hlistens)
  | enqueue d i s hd hs hlistens =>
    rcases mem_places_put (t := { t with handing := t.handing.erase (d, i) }) hs hc with
      hc | ⟨rfl, hheld⟩
    · exact .inl (mem_places_of_erase_handing hc)
    · simp only [Server.held, Server.enqueue, List.mem_append, List.mem_singleton] at hheld
      rcases hheld with (hqueue | rfl) | hserving
      · exact .inl (mem_places_server.2 ⟨s, hs, List.mem_append_left _ hqueue⟩)
      · have hhanding := mem_places_handing.2 (List.mem_of_find?_eq_some hd)
        exact .inr (.handedOver i s rfl hhanding hs hlistens)
      · exact .inl (mem_places_server.2 ⟨s, hs, List.mem_append_right _ hserving⟩)
  | exhaust i s hs =>
    have hheld : ({ s with stage := .exhausted } : Server).held ⊆ s.held := List.Subset.refl _
    exact .inl (mem_places_put_of_subset hs hheld hc)
  | finish i d s hs hd =>
    rcases mem_places_close hc with hc | ⟨rfl, hmem⟩
    · refine .inl (mem_places_put_of_subset hs (fun a ha => ?_) hc)
      rcases List.mem_append.1 ha with ha | ha
      · exact List.mem_append_left _ ha
      · exact List.mem_append_right _ (List.mem_of_mem_erase ha)
    · obtain rfl := List.mem_singleton.1 hmem
      exact .inr (.finished i rfl (mem_places_server.2 ⟨s, hs, List.mem_append_right _ hd⟩))
  | turn i hs hturns => exact .inl (mem_places_put_of_subset hs hturns.held_subset hc)
  | @ending i _ s s' hs hends =>
    have hs' : (t.step e).servers[i]? = some s' := by
      rw [hstep]
      exact (getElem?_put hs s' i).trans (if_pos rfl)
    have hgoes (closing : Closing) (hheld : c ∈ s.held)
        (hclosing : closing = .unserved ∨ closing = .forced) : t.Goes e c (.closed closing) :=
      .ended i s s' closing (mem_places_server.2 ⟨s, hs, hheld⟩) hs hends hs' hclosing
    rcases mem_places_close hc with hc | ⟨rfl, hserving⟩
    · rcases mem_places_close hc with hc | ⟨rfl, hqueue⟩
      · refine .inl (mem_places_put_of_subset hs ?_ hc)
        rw [hends.held_eq_nil]
        exact List.nil_subset _
      · exact .inr (hgoes _ (List.mem_append_left _ hqueue) (.inl rfl))
    · exact .inr (hgoes _ (List.mem_append_right _ hserving) (.inr rfl))

/-- **A step takes connections no other way.** -/
theorem goes_step (hc : (c, place) ∈ (t.step e).places) :
    (c, place) ∈ t.places ∨ t.Goes e c place := by
  rcases t.step_cases e with hsame | hmoves
  · exact .inl (hsame ▸ hc)
  · exact hmoves.goes rfl hc

/-! ### Where a decision leads -/

/-- The places to which an outcome leads. What is closed along with a server, or because of it, is
so only when that has stopped. -/
inductive Leads (t : Traffic) : Peek.Outcome → Place → Prop where
  | dropped (reason : DropReason) : Leads t (.dropped reason) (.closed (.dropped reason))
  | handing (i : Nat) : Leads t (.handler i) (.handing i)
  | server (i : Nat) : Leads t (.handler i) (.server i)
  | finished (i : Nat) : Leads t (.handler i) (.closed .finished)
  | lost (i : Nat) (s : Server) (closing : Closing) (hs : t.servers[i]? = some s)
    (hstage : s.stage = .stopped)
    (hclosing : closing = .unwanted ∨ closing = .unserved ∨ closing = .forced) :
    Leads t (.handler i) (.closed closing)

variable {outcome : Nat → Peek.Outcome} {o : Peek.Outcome} {steps : List TrafficStep}

/-- A server that has stopped does not start again. -/
theorem Leads.step (h : t.Leads o place) (e : TrafficStep) : (t.step e).Leads o place := by
  cases h with
  | dropped reason => exact .dropped reason
  | handing i => exact .handing i
  | server i => exact .server i
  | finished i => exact .finished i
  | lost i s closing hs hstage hclosing =>
    rcases server_step hs e with hsame | ⟨s', closings, hs', hchanges, -⟩
    · exact .lost i s closing hsame hstage hclosing
    · exact .lost i s' closing hs' (hchanges.stopped hstage) hclosing

/-- What is known of the places along a run: after the first bytes, the decision tells. -/
def Told (outcome : Nat → Peek.Outcome) (t : Traffic) : Prop :=
  ∀ c place, (c, place) ∈ t.places → place = .peeking ∨ t.Leads (outcome c) place

theorem told_ofSlots (slots : Nat) (protocols : List String) :
    (ofSlots slots protocols).Told outcome := by
  intro c place hc
  have hnone : (c, place) ∉ (ofSlots slots protocols).places := by
    intro hc
    have hmem := List.mem_map_of_mem (f := Prod.fst) hc
    rw [map_fst_places] at hmem
    have hplaces := (settled_ofSlots slots protocols).places.mem_iff.1 hmem
    exact List.not_mem_nil hplaces
  exact absurd hc hnone

theorem Leads.eq_of_handing (h : t.Leads o (.handing i)) : o = .handler i := by
  cases h
  rfl

theorem Leads.eq_of_server (h : t.Leads o (.server i)) : o = .handler i := by
  cases h
  rfl

/-- On its way to a server a connection goes as was decided. -/
theorem Told.leads_of_goes (h : t.Told outcome) (he : e.Follows outcome)
    (hgoes : t.Goes e c place) : place = .peeking ∨ (t.step e).Leads (outcome c) place := by
  have hhanding {i : Nat} (hc : (c, .handing i) ∈ t.places) : outcome c = .handler i :=
    ((h c _ hc).resolve_left nofun).eq_of_handing
  have hserver {i : Nat} (hc : (c, .server i) ∈ t.places) : outcome c = .handler i :=
    ((h c _ hc).resolve_left nofun).eq_of_server
  cases hgoes with
  | accepted => exact .inl rfl
  | dropped reason hdrop =>
    subst hdrop
    exact .inr (he ▸ .dropped reason)
  | classified i hclassify =>
    subst hclassify
    exact .inr (he ▸ .handing i)
  | unwanted i s hover hc hs hlistens =>
    refine .inr (hhanding hc ▸ Leads.step (.lost i s _ hs ?_ (.inl rfl)) e)
    simpa [Server.listens] using hlistens
  | handedOver i s hover hc => exact .inr (hhanding hc ▸ .server i)
  | finished i hfinish hc => exact .inr (hserver hc ▸ .finished i)
  | ended i s s' closing hc hs hends hs' hclosing =>
    refine .inr (hserver hc ▸ .lost i s' closing hs' ?_ (.inr hclosing))
    cases hends <;> rfl

theorem Told.step (h : t.Told outcome) (he : e.Follows outcome) : (t.step e).Told outcome := by
  intro c place hc
  rcases goes_step hc with hc | hgoes
  · exact (h c place hc).imp_right (·.step e)
  · exact h.leads_of_goes he hgoes

/-- **The place of a connection tells what was decided on it**, along a whole run. -/
theorem Told.run (h : t.Told outcome) (hsteps : ∀ e ∈ steps, e.Follows outcome) :
    (t.run steps).Told outcome := by
  induction steps generalizing t with
  | nil => exact h
  | cons e steps ih =>
    exact ih (h.step (hsteps e List.mem_cons_self)) fun e he => hsteps e (List.mem_cons_of_mem _ he)

/-! ### The end, as a server sees it -/

theorem isQuiet_iff : t.isQuiet = true ↔ t.loop = .stopped ∧ t.peeking = [] ∧ t.handing = [] := by
  simp [isQuiet, and_assoc]

/-- When nobody is left who could hand over a connection, nobody comes any more. -/
theorem Moves.isQuiet (h : t.Moves e t') (hquiet : t.isQuiet = true) : t'.isQuiet = true := by
  obtain ⟨hloop, hpeeking, hhanding⟩ := isQuiet_iff.1 hquiet
  cases h with
  | takeSlot hidle => rw [hloop] at hidle; cases hidle
  | accept hholding => rw [hloop] at hholding; cases hholding
  | acceptFails hholding => rw [hloop] at hholding; cases hholding
  | drop c reason hc => rw [hpeeking] at hc; cases hc
  | classify c i s hs hc => rw [hpeeking] at hc; cases hc
  | refuse c i s hc => rw [hhanding] at hc; cases hc
  | enqueue c i s hc => rw [hhanding] at hc; cases hc
  | stopAccepting => exact isQuiet_iff.2 ⟨rfl, hpeeking, hhanding⟩
  | connect | exhaust | finish | turn | ending => exact hquiet

theorem isQuiet_step (hquiet : t.isQuiet = true) (e : TrafficStep) :
    (t.step e).isQuiet = true := by
  rcases t.step_cases e with hsame | hmoves
  · rwa [hsame]
  · exact hmoves.isQuiet hquiet

/-- What is known of the servers that have seen the end: nobody was left who could hand over a
connection, and nothing waits. -/
def EndSeen (t : Traffic) : Prop :=
  ∀ (i : Nat) (s : Server), t.servers[i]? = some s → s.stage = .exhausted →
    t.isQuiet = true ∧ s.queue = []

theorem endSeen_ofSlots (slots : Nat) (protocols : List String) :
    (ofSlots slots protocols).EndSeen := by
  intro i s hs hstage
  obtain ⟨protocol, -, rfl⟩ := List.mem_map.1 (List.mem_of_getElem? hs)
  cases hstage

theorem EndSeen.step (h : t.EndSeen) (e : TrafficStep) : (t.step e).EndSeen := by
  intro i s' hs' hstage
  have hrun : (t.run [e]).servers[i]? = some s' := hs'
  obtain ⟨s, hs⟩ := exists_server_of_run hrun
  rcases server_step hs e with hsame | ⟨r, closings, hr, hchanges, -⟩
  · obtain rfl := Option.some.inj (hsame.symm.trans hs')
    obtain ⟨hquiet, hqueue⟩ := h i s hs hstage
    exact ⟨isQuiet_step hquiet e, hqueue⟩
  · obtain rfl := Option.some.inj (hr.symm.trans hs')
    cases hchanges with
    | enqueue c =>
      obtain ⟨hquiet, hqueue⟩ := h i s hs hstage
      have hidle : t.step (.handOver c) = t := by
        simp [Traffic.step, (isQuiet_iff.1 hquiet).2.2]
      rw [hidle, hs] at hr
      have hlonger : s.queue = s.queue ++ [c] := congrArg Server.queue (Option.some.inj hr)
      exact absurd hlonger (by simp)
    | exhaust haccepting hqueue =>
      by_cases hquiet : t.isQuiet = true
      · exact ⟨isQuiet_step hquiet _, hqueue⟩
      · have hidle : t.step (.exhaust i) = t := if_neg hquiet
        rw [hidle, hs] at hr
        have hsame : s.stage = .exhausted := congrArg Server.stage (Option.some.inj hr)
        exact ServerStage.noConfusion (haccepting.symm.trans hsame)
    | finish c hc =>
      obtain ⟨hquiet, hqueue⟩ := h i s hs hstage
      exact ⟨isQuiet_step hquiet _, hqueue⟩
    | turn hturns =>
      cases hturns with
      | take _ _ haccepting | notice haccepting =>
        exact ServerStage.noConfusion (haccepting.symm.trans hstage)
      | stop => exact ServerStage.noConfusion hstage
    | ending hends => cases hends <;> exact ServerStage.noConfusion hstage

theorem EndSeen.run (h : t.EndSeen) (steps : List TrafficStep) : (t.run steps).EndSeen := by
  induction steps generalizing t with
  | nil => exact h
  | cons e steps ih => exact ih (h.step e)

/-- **A server that has seen the end has taken all that were meant for it**: they are served, or
were served to their ends. -/
theorem taken_of_exhausted (htold : t.Told outcome) (hsettled : t.Settled slots)
    (hend : t.EndSeen) (hs : t.servers[i]? = some s) (hstage : s.stage = .exhausted)
    (hc : c < t.accepted) (hdecided : outcome c = .handler i) :
    c ∈ s.serving ∨ (c, .finished) ∈ t.closed := by
  obtain ⟨hquiet, hqueue⟩ := hend i s hs hstage
  obtain ⟨-, hpeeking, -⟩ := isQuiet_iff.1 hquiet
  obtain ⟨place, hplace, -⟩ := exists_unique_place hsettled hc
  have hleads : t.Leads (outcome c) place := by
    refine (htold c place hplace).resolve_left ?_
    rintro rfl
    rw [mem_places_peeking, hpeeking] at hplace
    cases hplace
  rw [hdecided] at hleads
  cases hleads with
  | handing =>
    rw [mem_places_handing, (isQuiet_iff.1 hquiet).2.2] at hplace
    cases hplace
  | server =>
    obtain ⟨r, hr, hheld⟩ := mem_places_server.1 hplace
    obtain rfl := Option.some.inj (hs.symm.trans hr)
    rw [Server.held, hqueue, List.nil_append] at hheld
    exact .inl hheld
  | finished => exact .inr (mem_places_closed.1 hplace)
  | lost _ r _ hr hstopped =>
    obtain rfl := Option.some.inj (hs.symm.trans hr)
    exact ServerStage.noConfusion (hstage.symm.trans hstopped)

end Traffic

end ProtocolGateway

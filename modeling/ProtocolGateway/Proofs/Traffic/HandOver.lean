import ProtocolGateway.Proofs.Traffic.Draining

/-!
# What becomes of connections that were handed over

A hand-over succeeds as long as the server has not ended and there is room in its queue, also while
it drains. But only what the server has taken out of the queue is served, and only that is counted
in its report. Told to stop, it takes nothing any more: what waits then, and what is handed over
later, is closed unserved when the server ends, and its report does not tell of it.

## Main definitions

* `Traffic.Counts`: what has become of a server that was told to stop.

## Main results

* `Traffic.Moves.unserved`: a connection is closed unserved by the end of the server for which it
  waits.
* `Traffic.waits_run`: what waits for a server that drains is never served.
* `Traffic.counts_run`: the report tells of the connections that were served, and of no others.
* `Traffic.handed_over`: the three together.
-/

namespace ProtocolGateway

namespace Traffic

variable {t t' : Traffic} {e : TrafficStep} {i c : Nat} {s : Server} {slots : Nat}

/-- A connection that is closed unserved waits for a server that ends. -/
theorem Moves.unserved (h : t.Moves e t') (hc : (c, .unserved) ∈ t'.closed) :
    (c, .unserved) ∈ t.closed ∨
      ∃ (i : Nat) (s s' : Server), t.servers[i]? = some s ∧ s.Ends i e s' ∧ c ∈ s.queue := by
  cases h with
  | connect | takeSlot | accept | acceptFails | stopAccepting | classify | enqueue | exhaust |
    turn => exact .inl hc
  | drop | refuse | finish => exact .inl (by simpa [close, put] using hc)
  | ending i hs hends =>
    simp only [close, put, List.mem_append, List.mem_map, Prod.mk.injEq, reduceCtorEq, and_false,
      exists_false, or_false, and_true, exists_eq_right] at hc
    exact hc.imp_right fun hqueue => ⟨i, _, _, hs, hends, hqueue⟩

theorem unserved_step (h : (c, .unserved) ∈ (t.step e).closed) :
    (c, .unserved) ∈ t.closed ∨
      ∃ (i : Nat) (s s' : Server), t.servers[i]? = some s ∧ s.Ends i e s' ∧ c ∈ s.queue := by
  rcases t.step_cases e with hsame | hmoves
  · exact .inl (hsame ▸ h)
  · exact hmoves.unserved h

/-! ### What waits -/

theorem waits_step (hs : t.servers[i]? = some s) (hstage : s.stage = .draining) (hc : c ∈ s.queue)
    (e : TrafficStep) :
    ∃ r, (t.step e).servers[i]? = some r ∧
      (r.stage = .draining ∧ c ∈ r.queue ∨
        r.stage = .stopped ∧ r.held = [] ∧ (c, .unserved) ∈ (t.step e).closed) := by
  rcases server_step hs e with hsame | ⟨r, closings, hr, hchanges, hclosings⟩
  · exact ⟨s, hsame, .inl ⟨hstage, hc⟩⟩
  · refine ⟨r, hr, ?_⟩
    have hunserved : (c, Closing.unserved) ∈
        s.queue.map (·, .unserved) ++ s.serving.map (·, .forced) :=
      List.mem_append_left _ (List.mem_map_of_mem hc)
    cases hchanges.late (Server.runs_of_draining hstage) with
    | enqueue d => exact .inl ⟨hstage, List.mem_append_left _ hc⟩
    | finish d => exact .inl ⟨hstage, hc⟩
    | drained | expired => exact .inr ⟨rfl, rfl, hclosings hunserved⟩

/-- **What waits for a server that drains** waits until that ends, and is closed unserved then. -/
theorem waits_run (hs : t.servers[i]? = some s) (hstage : s.stage = .draining) (hc : c ∈ s.queue)
    (later : List TrafficStep) :
    ∃ r, (t.run later).servers[i]? = some r ∧
      (r.stage = .draining ∧ c ∈ r.queue ∨
        r.stage = .stopped ∧ r.held = [] ∧ (c, .unserved) ∈ (t.run later).closed) := by
  induction later generalizing t s with
  | nil => exact ⟨s, hs, .inl ⟨hstage, hc⟩⟩
  | cons e later ih =>
    obtain ⟨r, hr, hwaits | ⟨hstopped, hheld, hclosed⟩⟩ := waits_step hs hstage hc e
    · exact ih hr hwaits.1 hwaits.2
    · refine ⟨r, server_run_of_not_changes hr fun _ _ _ _ =>
        Server.not_changes_of_stopped hstopped hheld, .inr ⟨hstopped, hheld, ?_⟩⟩
      exact ((t.step e).closed_prefix_run later).subset hclosed

/-! ### What is counted -/

/-- A connection is closed in one way only. -/
theorem Settled.closing_eq (h : t.Settled slots) {closing closing' : Closing}
    (hc : (c, closing) ∈ t.closed) (hc' : (c, closing') ∈ t.closed) : closing = closing' := by
  have hnodup : (t.closed.map Prod.fst).Nodup := (List.nodup_append.1 h.nodup).2.1
  exact congrArg Prod.snd (List.inj_on_of_nodup_map hnodup hc hc' rfl)

/-- What has become of a server that was `s` when it was told to stop and is `r` now: it serves
nothing else, each connection that it served finishes or is cut off, and its report tells how many
there were and how many were cut off. -/
structure Counts (t : Traffic) (s r : Server) : Prop where
  serving : r.serving ⊆ s.serving
  fates : ∀ c ∈ s.serving,
    c ∈ r.serving ∨ (c, .finished) ∈ t.closed ∨ (c, .forced) ∈ t.closed
  report : r.stage = .stopped → r.report =
    ⟨s.protocol, s.serving.length, (s.serving.filter fun c => (c, .forced) ∈ t.closed).length⟩

variable {r : Server} {steps : List TrafficStep}

/-- Before the deadline nothing is cut off. -/
theorem Settled.counts_of_draining (hsettled : t.Settled slots) (h : s.Draining i steps r)
    (hfinished : ∀ c ∈ s.serving, .finish i c ∈ steps → (c, .finished) ∈ t.closed) :
    t.Counts s r := by
  have hfate (c : Nat) (hc : c ∈ s.serving) : c ∈ r.serving ∨ (c, .finished) ∈ t.closed := by
    by_cases hfinish : .finish i c ∈ steps
    · exact .inr (hfinished c hc hfinish)
    · exact .inl (h.serving ▸ List.mem_filter.2 ⟨hc, decide_eq_true hfinish⟩)
  refine ⟨h.serving ▸ List.filter_subset_self _, fun c hc => (hfate c hc).imp_right .inl,
    fun hstopped => ?_⟩
  rcases h.stage with hstage | ⟨-, hheld, hforced⟩
  · exact ServerStage.noConfusion (hstage.symm.trans hstopped)
  · have hnone : (s.serving.filter fun c => (c, .forced) ∈ t.closed) = [] := by
      refine List.filter_eq_nil_iff.2 fun c hc hcut => ?_
      have hended := (hfate c hc).resolve_left (Server.not_mem_serving hheld)
      exact Closing.noConfusion (hsettled.closing_eq hended (of_decide_eq_true hcut))
    rw [Server.report, h.protocol, h.opened, hforced, hnone]
    rfl

/-- At the deadline all is cut off that has not finished. -/
theorem Settled.counts_of_ended (hsettled : t.Settled slots) (hheld : r.held = [])
    (hfinished : ∀ c ∈ s.serving, .finish i c ∈ steps → (c, .finished) ∈ t.closed)
    (hforced : ∀ c ∈ s.unfinished i steps, (c, .forced) ∈ t.closed)
    (hreport : r.report = ⟨s.protocol, s.serving.length, (s.unfinished i steps).length⟩) :
    t.Counts s r := by
  have hcut (c : Nat) (hc : c ∈ s.serving) (h : .finish i c ∉ steps) : (c, .forced) ∈ t.closed :=
    hforced c (List.mem_filter.2 ⟨hc, decide_eq_true h⟩)
  have hserving : r.serving = [] := (List.append_eq_nil_iff.1 hheld).2
  refine ⟨by simp [hserving], fun c hc => .inr ?_, fun _ => hreport.trans ?_⟩
  · by_cases h : .finish i c ∈ steps
    · exact .inl (hfinished c hc h)
    · exact .inr (hcut c hc h)
  · rw [Server.unfinished]
    congr 2
    refine List.filter_congr fun c hc => decide_eq_decide.2 ⟨hcut c hc, fun h hfinish => ?_⟩
    exact Closing.noConfusion (hsettled.closing_eq h (hfinished c hc hfinish))

/-- **The report tells of the connections that were served** when the server was told to stop. -/
theorem counts_run (hsettled : t.Settled slots) (hs : t.servers[i]? = some s)
    (hruns : s.runs = true) (meanwhile : List TrafficStep) :
    ∃ r, (t.run (.stop i :: meanwhile)).servers[i]? = some r ∧
      (t.run (.stop i :: meanwhile)).Counts s r := by
  have hnodup := hsettled.nodup_serving hs
  have hsettled' := hsettled.run (.stop i :: meanwhile)
  by_cases hexpire : .expire i ∈ meanwhile
  · obtain ⟨early, later, rfl, hearly⟩ := List.eq_append_cons_of_mem hexpire
    have hdrains := drains_run hs hnodup hruns hearly
    obtain ⟨hend, hforced⟩ := hdrains.endedWith_expire
    have hsplit : t.run (.stop i :: (early ++ .expire i :: later)) =
        ((t.run (.stop i :: early)).step (.expire i)).run later := by
      simp only [run, List.foldl_cons, List.foldl_append]
    rw [hsplit] at hsettled' ⊢
    obtain ⟨r, hr, -, hheld, hreport⟩ := hend.run later
    have hkept := closed_prefix_run ((t.run (.stop i :: early)).step (.expire i)) later
    refine ⟨r, hr, hsettled'.counts_of_ended hheld (fun c hc hfinish => ?_)
      (fun c hc => hkept.subset (hforced c hc)) hreport⟩
    exact hkept.subset ((closed_prefix_step _ _).subset (hdrains.finished c hc hfinish))
  · have hdrains := drains_run hs hnodup hruns hexpire
    obtain ⟨r, hr, hdraining⟩ := hdrains.server
    exact ⟨r, hr, hsettled'.counts_of_draining hdraining hdrains.finished⟩

/-! ### All of it -/

/-- A hand-over succeeds while the server listens and there is room. -/
theorem step_handOver (hc : t.handing.find? (·.1 = c) = some (c, i))
    (hs : t.servers[i]? = some s) (hlistens : s.listens = true) (hroom : s.hasRoom = true) :
    (t.step (.handOver c)).servers[i]? = some (s.enqueue c) := by
  have hput : t.step (.handOver c) =
      { t with handing := t.handing.erase (c, i) }.put i (s.enqueue c) := by
    simp [step, hc, handTo, hs, hlistens, hroom, ← modify_eq_put]
  rw [hput]
  exact (getElem?_put hs _ i).trans (if_pos rfl)

/-- **What becomes of connections that were handed over**, at any moment of any run. A hand-over
succeeds if the server listens and has room, be it that it drains already. Told to stop, a server
keeps what it serves and what waits for it; it serves nothing else from then on, each connection
that it serves finishes or is cut off, and its report tells how many there were and how many of them
were cut off. A connection that waits when the server drains is never served: it waits until the
server ends, and is closed unserved then. In no other way is a connection closed unserved. -/
theorem handed_over (slots : Nat) (protocols : List String) (before : List TrafficStep) :
    let t := (ofSlots slots protocols).run before
    (∀ i s, t.servers[i]? = some s →
      (∀ c, t.handing.find? (·.1 = c) = some (c, i) → s.listens = true → s.hasRoom = true →
        (t.step (.handOver c)).servers[i]? = some (s.enqueue c)) ∧
      (s.runs = true →
        (t.step (.stop i)).servers[i]? =
          some { s with stage := .draining, done := [], opened := s.serving.length } ∧
        ∀ meanwhile,
          let u := t.run (.stop i :: meanwhile)
          ∃ r, u.servers[i]? = some r ∧ r.serving ⊆ s.serving ∧
            (∀ c ∈ s.serving,
              c ∈ r.serving ∨ (c, .finished) ∈ u.closed ∨ (c, .forced) ∈ u.closed) ∧
            (r.stage = .stopped → r.report =
              ⟨s.protocol, s.serving.length,
                (s.serving.filter fun c => (c, .forced) ∈ u.closed).length⟩)) ∧
      (s.stage = .draining → ∀ c ∈ s.queue, ∀ later,
        let u := t.run later
        ∃ r, u.servers[i]? = some r ∧ c ∉ r.serving ∧
          (r.stage = .draining ∧ c ∈ r.queue ∨ r.stage = .stopped ∧ (c, .unserved) ∈ u.closed))) ∧
    ∀ e c, (c, .unserved) ∈ (t.step e).closed →
      (c, .unserved) ∈ t.closed ∨
        ∃ (i : Nat) (s s' : Server), t.servers[i]? = some s ∧ s.Ends i e s' ∧ c ∈ s.queue := by
  intro t
  have hsettled : t.Settled slots := settled_run slots protocols before
  refine ⟨fun i s hs => ⟨fun c hc hlistens hroom => step_handOver hc hs hlistens hroom,
    fun hruns => ⟨?_, fun meanwhile => ?_⟩, fun hstage c hc later => ?_⟩,
    fun e c => unserved_step⟩
  · have hstop : t.step (.stop i) = t.put i s.stop := modify_eq_put hs _
    rw [hstop, getElem?_put hs, if_pos rfl, Server.stop, if_pos hruns]
    rfl
  · obtain ⟨r, hr, hcounts⟩ := counts_run hsettled hs hruns meanwhile
    exact ⟨r, hr, hcounts.serving, hcounts.fates, hcounts.report⟩
  · obtain ⟨r, hr, ⟨hdraining, hwaits⟩ | ⟨hstopped, hheld, hclosed⟩⟩ := waits_run hs hstage hc later
    · refine ⟨r, hr, fun hserved => ?_, .inl ⟨hdraining, hwaits⟩⟩
      exact (List.nodup_append.1 ((hsettled.run later).nodup_held hr)).2.2 c hwaits c hserved rfl
    · exact ⟨r, hr, Server.not_mem_serving hheld, .inr ⟨hstopped, hclosed⟩⟩

/-- A connection is handed over to a server that drains already; it is closed unserved when that
ends. -/
theorem handed_over_late :
    (0, Closing.unserved) ∈ ((ofSlots 1 ["http1"]).run
      [.connect, .takeSlot, .accept, .classify 0 0, .stopAccepting, .stop 0, .handOver 0,
        .drained 0]).closed := by
  obtain ⟨r, hr, -, hwaits | hclosed⟩ := ((handed_over 1 ["http1"]
    [.connect, .takeSlot, .accept, .classify 0 0, .stopAccepting, .stop 0, .handOver 0]).1 0 _
      rfl).2.2 rfl 0 (by decide) [.drained 0]
  · cases hr
    exact absurd hwaits.1 (by decide)
  · exact hclosed.2

/-- A connection that waits when its server is told to stop was counted and handed over, is closed
unserved, and no report tells of it. -/
theorem handed_over_untold :
    let t := (ofSlots 1 ["http1", "http2"]).run
      [.connect, .takeSlot, .accept, .classify 0 0, .handOver 0, .stopAccepting, .stop 0, .stop 1,
        .drained 0, .drained 1]
    t.metrics = [(.connections "http1", 1)] ∧ t.closed = [(0, .unserved)] ∧
      t.reports = [⟨"http1", 0, 0⟩, ⟨"http2", 0, 0⟩] := by
  decide

end Traffic

end ProtocolGateway

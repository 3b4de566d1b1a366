import Mathlib.Data.List.Nodup
import ProtocolGateway.BuiltIn.Operations
import ProtocolGateway.Proofs.Traffic.Places
import ProtocolGateway.Teardown.Shutdown

/-!
# What servers tell about their ends

A server that is told to stop counts the connections that it serves at that moment; those that are
done but unnoticed do not count. It takes no more from its queue, so its connections only get fewer,
one for each that finishes, and what is left at the deadline is cut off and counted. All this goes
on beside the other servers and the rest of the program, which cannot touch the connections of a
server; so one deadline for all servers is a deadline for each of them.

## Main definitions

* `Server.Accounts`: what holds of the counts of a server at any time.
* `Server.unfinished`, `Server.Draining`: the connections that are left after some steps, and the
  server that has them.
* `Traffic.Drains`: a server on its way from being told to stop to the deadline.
* `Traffic.EndedWith`: a server that has ended with a report.

## Main results

* `Traffic.accounts_run`: the counts of servers fit at any time.
* `Traffic.drains_run`, `Traffic.Drains.endedWith_expire`: the way to the deadline, and what comes
  then.
* `Gateway.reports_drain`: all servers of a process under one deadline.
* `Traffic.drain_counts`: what servers tell about their ends.
-/

namespace ProtocolGateway

namespace Server

/-- What holds of the counts of a server at any time. -/
structure Accounts (s : Server) : Prop where
  unforced : s.listens = true → s.forced = 0
  counted : s.stage = .draining → s.serving.length ≤ s.opened
  forced_le : s.forced ≤ s.opened
  emptied : s.stage = .stopped → s.held = []

variable {s s' : Server} {i : Nat} {e : TrafficStep} {closings : List (Nat × Closing)}

theorem stage_ne_of_listens (hlistens : s.listens = true) : s.stage ≠ .stopped := by
  simpa [listens] using hlistens

theorem not_mem_serving {c : Nat} (hheld : s.held = []) : c ∉ s.serving := fun hc =>
  List.eq_nil_iff_forall_not_mem.1 hheld c (List.mem_append_right _ hc)

theorem Turns.accounts (h : s.Turns i e s') (hs : s.Accounts) : s'.Accounts := by
  cases h with
  | take c queue hstage hqueue =>
    have hforced := hs.unforced (listens_of_runs (runs_of_accepting hstage))
    exact ⟨fun _ => hforced, fun h => by simp [hstage] at h, hs.forced_le,
      fun h => by simp [hstage] at h⟩
  | notice hstage => exact ⟨hs.unforced, hs.counted, hs.forced_le, hs.emptied⟩
  | stop hruns =>
    have hforced := hs.unforced (listens_of_runs hruns)
    exact ⟨fun _ => hforced, fun _ => Nat.le_refl _, by simp [hforced],
      ServerStage.noConfusion⟩

theorem Ends.accounts (h : s.Ends i e s') (hs : s.Accounts) : s'.Accounts := by
  have hended {s : Server} {forced : Nat} (hle : forced ≤ s.opened) : (s.ended forced).Accounts :=
    ⟨fun h => Bool.noConfusion h, ServerStage.noConfusion, hle, fun _ => rfl⟩
  cases h with
  | drained => exact hended (Nat.zero_le _)
  | expired hstage => exact hended (hs.counted hstage)
  | abandoned => exact hended (Nat.le_refl _)

/-- Whatever happens to a server, its counts fit. -/
theorem Changes.accounts (h : s.Changes i e s' closings) (hs : s.Accounts) : s'.Accounts := by
  cases h with
  | enqueue c hlistens =>
    exact ⟨hs.unforced, hs.counted, hs.forced_le, fun h => absurd h (stage_ne_of_listens hlistens)⟩
  | exhaust hstage =>
    have hforced := hs.unforced (listens_of_runs (runs_of_accepting hstage))
    exact ⟨fun _ => hforced, ServerStage.noConfusion, hs.forced_le, ServerStage.noConfusion⟩
  | finish c hc =>
    exact ⟨hs.unforced, fun h => Nat.le_trans List.length_erase_le (hs.counted h), hs.forced_le,
      fun h => absurd hc (not_mem_serving (hs.emptied h))⟩
  | turn h => exact h.accounts hs
  | ending h => exact h.accounts hs

/-- Nothing happens to a server that has ended. -/
theorem not_changes_of_stopped (hstage : s.stage = .stopped) (hheld : s.held = []) :
    ¬s.Changes i e s' closings := by
  intro h
  cases h.late (runs_of_stopped hstage) with
  | enqueue c hlistens => exact stage_ne_of_listens hlistens hstage
  | finish c hc => exact not_mem_serving hheld hc
  | drained hdraining | expired hdraining =>
    exact ServerStage.noConfusion (hdraining.symm.trans hstage)

/-! ### On the way to the deadline -/

/-- The connections that the server at a place serves, less those that finish in some steps. -/
def unfinished (s : Server) (i : Nat) (steps : List TrafficStep) : List Nat :=
  s.serving.filter fun c => .finish i c ∉ steps

theorem unfinished_nil (s : Server) (i : Nat) : s.unfinished i [] = s.serving := by
  simp [unfinished]

theorem unfinished_append (s : Server) (i : Nat) (steps : List TrafficStep) (e : TrafficStep) :
    s.unfinished i (steps ++ [e]) = (s.unfinished i steps).filter (.finish i · ≠ e) := by
  simp only [unfinished, List.filter_filter, List.mem_append, List.mem_singleton, not_or,
    Bool.decide_and, Bool.and_comm]

theorem unfinished_of_ne {steps : List TrafficStep}
    (h : ∀ c ∈ s.unfinished i steps, e ≠ .finish i c) :
    s.unfinished i (steps ++ [e]) = s.unfinished i steps := by
  rw [unfinished_append, List.filter_eq_self]
  intro c hc
  exact decide_eq_true (h c hc).symm

theorem unfinished_finish (hnodup : s.serving.Nodup) (steps : List TrafficStep) (c : Nat) :
    s.unfinished i (steps ++ [.finish i c]) = (s.unfinished i steps).erase c := by
  have hfilter : (s.unfinished i steps).Nodup := hnodup.filter _
  rw [unfinished_append, hfilter.erase_eq_filter]
  refine List.filter_congr fun d _ => ?_
  by_cases hd : d = c <;> simp [hd]

/-- The server at a place was told to stop, then some steps were taken but not the deadline, and now
it is `r`. -/
structure Draining (s : Server) (i : Nat) (steps : List TrafficStep) (r : Server) : Prop where
  protocol : r.protocol = s.protocol
  opened : r.opened = s.serving.length
  serving : r.serving = s.unfinished i steps
  stage : r.stage = .draining ∨ r.stage = .stopped ∧ r.held = [] ∧ r.forced = 0

variable {r r' : Server} {steps : List TrafficStep}

theorem Draining.finish (h : s.Draining i steps r) (hnodup : s.serving.Nodup) {c : Nat}
    (hc : c ∈ r.serving) : s.Draining i (steps ++ [.finish i c]) (r.finish c) where
  protocol := h.protocol
  opened := h.opened
  serving := by rw [unfinished_finish hnodup, ← h.serving]; rfl
  stage := by
    rcases h.stage with hstage | ⟨-, hheld, -⟩
    · exact .inl hstage
    · exact absurd hc (not_mem_serving hheld)

/-- Nothing but the end of a connection, or of all of them, touches what a server still serves. -/
theorem Draining.changes (h : s.Draining i steps r) (hr : r.Changes i e r' closings)
    (hexpire : e ≠ .expire i) (hfinish : ∀ c ∈ r.serving, e ≠ .finish i c) :
    s.Draining i (steps ++ [e]) r' := by
  have hunfinished : s.unfinished i (steps ++ [e]) = r.serving := by
    rw [h.serving]
    exact unfinished_of_ne fun c hc => hfinish c (h.serving.symm ▸ hc)
  rcases h.stage with hstage | ⟨hstage, hheld, -⟩
  · cases hr.late (runs_of_draining hstage) with
    | enqueue c => exact ⟨h.protocol, h.opened, hunfinished.symm, .inl hstage⟩
    | finish c hc => exact absurd rfl (hfinish c hc)
    | drained _ hserving =>
      exact ⟨h.protocol, h.opened, (hunfinished.trans hserving).symm, .inr ⟨rfl, rfl, rfl⟩⟩
    | expired => exact absurd rfl hexpire
  · exact absurd hr (not_changes_of_stopped hstage hheld)

end Server

namespace Traffic

variable {t t' : Traffic} {e : TrafficStep} {i : Nat} {s : Server} {slots : Nat}
  {steps : List TrafficStep} {report : DrainReport}

/-- **The counts of servers fit** at any time. -/
theorem accounts_run (slots : Nat) (protocols : List String) (steps : List TrafficStep) :
    ∀ s ∈ ((ofSlots slots protocols).run steps).servers, s.Accounts := by
  intro s hs
  obtain ⟨i, hi⟩ := List.mem_iff_getElem?.1 hs
  obtain ⟨first, hfirst⟩ := exists_server_of_run hi
  obtain ⟨protocol, -, rfl⟩ := List.mem_map.1 (List.mem_of_getElem? hfirst)
  obtain ⟨r, hr, haccounts⟩ := exists_server_run (P := Server.Accounts)
    (fun _ _ _ _ hchanges => hchanges.accounts) hfirst
    ⟨fun _ => rfl, ServerStage.noConfusion, Nat.le_refl _, ServerStage.noConfusion⟩ steps
  obtain rfl := Option.some.inj (hi.symm.trans hr)
  exact haccounts

/-! ### The end -/

/-- The server at a place has ended with a report, and has no connections any more. -/
def EndedWith (i : Nat) (report : DrainReport) (t : Traffic) : Prop :=
  ∃ s, t.servers[i]? = some s ∧ s.stage = .stopped ∧ s.held = [] ∧ s.report = report

/-- A server that has ended stays as it is. -/
theorem EndedWith.run (h : t.EndedWith i report) (later : List TrafficStep) :
    (t.run later).EndedWith i report := by
  obtain ⟨s, hs, hstage, hheld, hreport⟩ := h
  refine ⟨s, server_run_of_not_changes hs fun _ _ _ _ => ?_, hstage, hheld, hreport⟩
  exact Server.not_changes_of_stopped hstage hheld

/-- A server that ends tells of its end, and what it served is cut off. -/
theorem endedWith_letGo {f : Server → Server} (hs : t.servers[i]? = some s)
    (h : s.Ends i e (f s)) :
    (t.letGo i f).EndedWith i (f s).report ∧
      ∀ c ∈ s.serving, (c, .forced) ∈ (t.letGo i f).closed := by
  rw [letGo_of_ends hs h]
  refine ⟨⟨f s, (getElem?_put hs (f s) i).trans (if_pos rfl), ?_, h.held_eq_nil, rfl⟩,
    fun c hc => List.mem_append_right _ (List.mem_map_of_mem hc)⟩
  generalize f s = s' at h
  cases h <;> rfl

/-! ### From being told to stop to the deadline -/

/-- The server at a place, which was `s` then, was told to stop; some steps were taken since, but
not the deadline. -/
structure Drains (t : Traffic) (s : Server) (i : Nat) (steps : List TrafficStep) : Prop where
  server : ∃ r, t.servers[i]? = some r ∧ s.Draining i steps r
  finished : ∀ c ∈ s.serving, .finish i c ∈ steps → (c, .finished) ∈ t.closed

theorem Settled.nodup_held (h : t.Settled slots) (hs : t.servers[i]? = some s) : s.held.Nodup :=
  (List.nodup_flatMap.1 (List.nodup_append.1 (List.nodup_append.1 h.nodup).1).2.1).1 s
    (List.mem_of_getElem? hs)

theorem Settled.nodup_serving (h : t.Settled slots) (hs : t.servers[i]? = some s) :
    s.serving.Nodup := (List.nodup_append.1 (h.nodup_held hs)).2.1

theorem drains_stop (hs : t.servers[i]? = some s) (hruns : s.runs = true) :
    (t.step (.stop i)).Drains s i [] := by
  have hstop : t.step (.stop i) = t.put i s.stop := modify_eq_put hs _
  rw [hstop]
  refine ⟨⟨s.stop, (getElem?_put hs _ i).trans (if_pos rfl), ?_⟩,
    fun _ _ h => absurd h List.not_mem_nil⟩
  rw [Server.stop, if_pos hruns]
  exact ⟨rfl, rfl, (s.unfinished_nil i).symm, .inl rfl⟩

/-- A connection that is served can finish. -/
theorem step_finish (hs : t.servers[i]? = some s) {c : Nat} (hc : c ∈ s.serving) :
    t.step (.finish i c) = (t.put i (s.finish c)).close [c] .finished := by
  simp [step, hs, hc, modify_eq_put hs]

theorem Drains.step (h : t.Drains s i steps) (hnodup : s.serving.Nodup) (hexpire : e ≠ .expire i) :
    (t.step e).Drains s i (steps ++ [e]) := by
  obtain ⟨r, hr, hdraining⟩ := h.server
  by_cases hfinish : ∃ c ∈ r.serving, e = .finish i c
  · obtain ⟨c, hc, rfl⟩ := hfinish
    rw [step_finish hr hc]
    refine ⟨⟨r.finish c, (getElem?_put hr _ i).trans (if_pos rfl), hdraining.finish hnodup hc⟩,
      fun d hd hmem => ?_⟩
    rcases List.mem_append.1 hmem with hmem | hmem
    · exact List.mem_append_left _ (h.finished d hd hmem)
    · cases List.mem_singleton.1 hmem
      exact List.mem_append_right _ List.mem_cons_self
  · have hne : ∀ c ∈ r.serving, e ≠ .finish i c := fun c hc he => hfinish ⟨c, hc, he⟩
    refine ⟨?_, fun d hd hmem => (t.closed_prefix_step e).subset (h.finished d hd ?_)⟩
    · rcases server_step hr e with hsame | ⟨r', closings, hr', hchanges, -⟩
      · refine ⟨r, hsame, hdraining.protocol, hdraining.opened, ?_, hdraining.stage⟩
        rw [Server.unfinished_of_ne (hdraining.serving ▸ hne), hdraining.serving]
      · exact ⟨r', hr', hdraining.changes hchanges hexpire hne⟩
    · rcases List.mem_append.1 hmem with hmem | hmem
      · exact hmem
      · -- a connection that is not served any more has finished before
        by_contra hnot
        have hleft : d ∈ r.serving := by
          rw [hdraining.serving]
          exact List.mem_filter.2 ⟨hd, decide_eq_true hnot⟩
        exact hne d hleft (List.mem_singleton.1 hmem).symm

/-- **On the way to the deadline** a server counts what it served when it was told to stop, and
serves what has not finished since. -/
theorem drains_run (hs : t.servers[i]? = some s) (hnodup : s.serving.Nodup) (hruns : s.runs = true)
    (hexpire : .expire i ∉ steps) : (t.run (.stop i :: steps)).Drains s i steps := by
  suffices hrun : ∀ before (t : Traffic), t.Drains s i before →
      (t.run steps).Drains s i (before ++ steps) from hrun [] _ (drains_stop hs hruns)
  induction steps with
  | nil => exact fun before t h => (List.append_nil before).symm ▸ h
  | cons e steps ih =>
    intro before t h
    rw [List.mem_cons, not_or] at hexpire
    have hlater := ih hexpire.2 (before ++ [e]) _ (h.step hnodup (Ne.symm hexpire.1))
    rwa [List.append_assoc] at hlater

/-- What a server has left at the deadline is cut off, and counted. -/
theorem Drains.endedWith_expire (h : t.Drains s i steps) :
    (t.step (.expire i)).EndedWith i ⟨s.protocol, s.serving.length, (s.unfinished i steps).length⟩ ∧
      ∀ c ∈ s.unfinished i steps, (c, .forced) ∈ (t.step (.expire i)).closed := by
  obtain ⟨r, hr, hdraining⟩ := h.server
  rw [← hdraining.serving, ← hdraining.protocol, ← hdraining.opened]
  rcases hdraining.stage with hstage | ⟨hstage, hheld, hforced⟩
  · have hexpire : r.expire = r.ended r.serving.length := by rw [Server.expire, if_pos hstage]; rfl
    have hends : r.Ends i (.expire i) r.expire := by rw [hexpire]; exact .expired hstage
    have hend := endedWith_letGo hr hends
    rwa [hexpire] at hend
  · have hserving : r.serving = [] := (List.append_eq_nil_iff.1 hheld).2
    have hended : t.EndedWith i ⟨r.protocol, r.opened, r.serving.length⟩ :=
      ⟨r, hr, hstage, hheld, by rw [hserving, Server.report, hforced]; rfl⟩
    exact ⟨hended.run [.expire i], by simp [hserving]⟩

/-- If nothing is left before the deadline, the server can end, and nothing was cut off. -/
theorem Drains.endedWith_drained (h : t.Drains s i steps) (hnone : s.unfinished i steps = []) :
    (t.step (.drained i)).EndedWith i ⟨s.protocol, s.serving.length, 0⟩ := by
  obtain ⟨r, hr, hdraining⟩ := h.server
  have hserving : r.serving = [] := hdraining.serving.trans hnone
  rw [← hdraining.protocol, ← hdraining.opened]
  rcases hdraining.stage with hstage | ⟨hstage, hheld, hforced⟩
  · have hdrained : r.drained = r.ended 0 := by simp [Server.drained, hstage, hserving]
    have hends : r.Ends i (.drained i) r.drained := by
      rw [hdrained]
      exact .drained hstage hserving
    have hend := endedWith_letGo hr hends
    rw [hdrained] at hend
    exact hend.1
  · have hended : t.EndedWith i ⟨r.protocol, r.opened, 0⟩ :=
      ⟨r, hr, hstage, hheld, by rw [Server.report, hforced]⟩
    exact hended.run [.drained i]

/-- A server that nobody can tell to stop any more cuts off all that it serves. -/
theorem endedWith_abandon (hs : t.servers[i]? = some s) (hruns : s.runs = true) :
    (t.step (.abandon i)).EndedWith i ⟨s.protocol, s.serving.length, s.serving.length⟩ ∧
      ∀ c ∈ s.serving, (c, .forced) ∈ (t.step (.abandon i)).closed := by
  have habandon : s.abandon =
      { s with opened := s.serving.length }.ended s.serving.length := by
    rw [Server.abandon, Server.stop, if_pos hruns, if_pos hruns]
    rfl
  have hends : s.Ends i (.abandon i) s.abandon := by rw [habandon]; exact .abandoned hruns
  have hend := endedWith_letGo hs hends
  rwa [habandon] at hend

end Traffic

/-! ### All servers of a process -/

namespace Gateway

variable {M : Type}

/-- What happens to the connections between the beginning of the drain and the deadline. -/
def inTime (meanwhile : List TrafficStep) (g : Gateway M) : List TrafficStep :=
  if g.context.cancelled then [] else meanwhile

/-- All that happens to the connections during the drain. -/
def drainOrder (meanwhile : List TrafficStep) (g : Gateway M) : List TrafficStep :=
  g.drainSteps ++ g.inTime meanwhile ++ g.deadlineSteps

/-- The drain happens to the connections and to nothing else. -/
theorem drain_eq (meanwhile : List TrafficStep) (g : Gateway M) :
    g.drain meanwhile = g.advance (g.drainOrder meanwhile) := by
  have happend (steps later : List TrafficStep) (g : Gateway M) :
      g.advance (steps ++ later) = (g.advance steps).advance later := by
    rw [advance, Traffic.run_append]
    rfl
  rw [drain, drainOrder, inTime, happend, happend]
  split <;> rfl

theorem traffic_drain (meanwhile : List TrafficStep) (g : Gateway M) :
    (g.drain meanwhile).traffic = g.traffic.run (g.drainOrder meanwhile) := by
  rw [drain_eq, advance]

/-- Each server has its turn. -/
theorem exists_range_eq {i n : Nat} (hi : i < n) :
    ∃ before after, List.range n = before ++ i :: after ∧ i ∉ before := by
  obtain ⟨before, after, hrange⟩ := List.append_of_mem (List.mem_range.2 hi)
  have hnodup := List.nodup_range (n := n)
  rw [hrange, List.nodup_append] at hnodup
  exact ⟨before, after, hrange, fun h => hnodup.2.2 i h i List.mem_cons_self rfl⟩

/-- A server does not notice that others are told to stop. -/
theorem server_of_others_stop {t : Traffic} {i : Nat} {s : Server} {others : List Nat}
    (hs : t.servers[i]? = some s) (hi : i ∉ others) :
    (t.run (.stopAccepting :: others.map .stop)).servers[i]? = some s := by
  refine Traffic.server_run_of_not_changes hs fun e he s' closings hchanges => ?_
  rcases List.mem_cons.1 he with rfl | he
  · cases hchanges with
    | turn h => cases h
    | ending h => cases h
  · obtain ⟨j, hj, rfl⟩ := List.mem_map.1 he
    cases hchanges with
    | turn h => cases h; exact hi hj
    | ending h => cases h

theorem not_mem_inTime {meanwhile : List TrafficStep} {e : TrafficStep} (he : e ∉ meanwhile)
    (g : Gateway M) : e ∉ g.inTime meanwhile := by
  rw [inTime]
  split
  · exact List.not_mem_nil
  · exact he

/-- **One deadline for all servers** is a deadline for each of them. -/
theorem endedWith_drain {g : Gateway M} {slots : Nat} (hsettled : g.traffic.Settled slots)
    {meanwhile : List TrafficStep} (hmeanwhile : ∀ i, .expire i ∉ meanwhile) {i : Nat} {s : Server}
    (hs : g.traffic.servers[i]? = some s) (hruns : s.runs = true) :
    (g.drain meanwhile).traffic.EndedWith i
      ⟨s.protocol, s.serving.length, (s.unfinished i (g.inTime meanwhile)).length⟩ := by
  obtain ⟨before, after, hrange, hi⟩ := exists_range_eq (List.getElem?_eq_some_iff.1 hs).1
  -- from the moment when this server is told to stop to the moment when it learns of the deadline
  let between := after.map .stop ++ g.inTime meanwhile ++ before.map .expire
  have hexpire : .expire i ∉ between := by
    simp [between, not_mem_inTime (hmeanwhile i) g, hi]
  have hunfinished : s.unfinished i between = s.unfinished i (g.inTime meanwhile) := by
    simp [between, Server.unfinished]
  have hsplit : (g.drain meanwhile).traffic =
      (((g.traffic.run (.stopAccepting :: before.map .stop)).run (.stop i :: between)).step
        (.expire i)).run (after.map .expire) := by
    rw [traffic_drain, drainOrder, drainSteps, deadlineSteps, serverCount, hrange]
    simp only [between, Traffic.run, List.map_append, List.map_cons, List.foldl_cons,
      List.foldl_append]
  rw [hsplit, ← hunfinished]
  have hdrains := Traffic.drains_run (server_of_others_stop hs hi) (hsettled.nodup_serving hs)
    hruns hexpire
  exact hdrains.endedWith_expire.1.run _

/-- The reports of all servers, in their order. -/
theorem reports_drain {g : Gateway M} {slots : Nat} (hsettled : g.traffic.Settled slots)
    {meanwhile : List TrafficStep} (hmeanwhile : ∀ i, .expire i ∉ meanwhile)
    (hruns : ∀ s ∈ g.traffic.servers, s.runs = true) :
    (g.drain meanwhile).traffic.reports = g.traffic.servers.mapIdx fun i s =>
      ⟨s.protocol, s.serving.length, (s.unfinished i (g.inTime meanwhile)).length⟩ := by
  rw [traffic_drain]
  refine Traffic.map_servers_run fun i s hs => ?_
  rw [← traffic_drain]
  obtain ⟨r, hr, -, -, hreport⟩ :=
    endedWith_drain hsettled hmeanwhile hs (hruns s (List.mem_of_getElem? hs))
  exact ⟨r, hr, hreport⟩

/-- No server serves anything after the drain. -/
theorem servers_drain {g : Gateway M} {slots : Nat} (hsettled : g.traffic.Settled slots)
    {meanwhile : List TrafficStep} (hmeanwhile : ∀ i, .expire i ∉ meanwhile)
    (hruns : ∀ s ∈ g.traffic.servers, s.runs = true) :
    ∀ r ∈ (g.drain meanwhile).traffic.servers, r.stage = .stopped ∧ r.held = [] := by
  intro r hr
  obtain ⟨i, hi⟩ := List.mem_iff_getElem?.1 hr
  obtain ⟨s, hs⟩ := Traffic.exists_server_of_run (traffic_drain meanwhile g ▸ hi)
  obtain ⟨r', hr', hstage, hheld, -⟩ :=
    endedWith_drain hsettled hmeanwhile hs (hruns s (List.mem_of_getElem? hs))
  obtain rfl := Option.some.inj (hi.symm.trans hr')
  exact ⟨hstage, hheld⟩

end Gateway

namespace Traffic

/-- **What servers tell about their ends**, at any moment of any run. A server never cuts off more
than it counted, and serves nothing once it has ended. If a server runs, be it that connections
still come to it or not, and is told to stop, it counts what it serves at that moment. In whatever
order things happen then until the deadline, the connections that finish are done for good, and the
others are what is left: these are cut off at the deadline, and their number is told. If nothing is
left the server ends before the deadline, having cut off nothing. If nobody can set a deadline it
cuts off all that it serves. Neither report changes later. All servers of a process that is shut
down do so under the same deadline, which is reached at once if the root scope is cancelled. -/
theorem drain_counts {M : Type} (slots : Nat) (protocols : List String)
    (before : List TrafficStep) :
    let t := (ofSlots slots protocols).run before
    (∀ s ∈ t.servers, s.forced ≤ s.opened ∧ (s.stage = .stopped → s.serving = [])) ∧
    (∀ i s, t.servers[i]? = some s → s.runs = true →
      (∀ meanwhile later, .expire i ∉ meanwhile →
        let draining := t.run (.stop i :: meanwhile)
        let left := s.unfinished i meanwhile
        (∃ r, draining.servers[i]? = some r ∧ r.opened = s.serving.length ∧ r.serving = left) ∧
        (∀ c ∈ s.serving, .finish i c ∈ meanwhile → (c, .finished) ∈ draining.closed) ∧
        (∀ c ∈ left, (c, .forced) ∈ (draining.step (.expire i)).closed) ∧
        ((draining.step (.expire i)).run later).EndedWith i
          ⟨s.protocol, s.serving.length, left.length⟩ ∧
        (left = [] → ((draining.step (.drained i)).run later).EndedWith i
          ⟨s.protocol, s.serving.length, 0⟩)) ∧
      ∀ later,
        (∀ c ∈ s.serving, (c, .forced) ∈ (t.step (.abandon i)).closed) ∧
        ((t.step (.abandon i)).run later).EndedWith i
          ⟨s.protocol, s.serving.length, s.serving.length⟩) ∧
    ∀ (g : Gateway M) meanwhile, g.traffic = t → (∀ s ∈ t.servers, s.runs = true) →
      (∀ i, .expire i ∉ meanwhile) →
        (g.drain meanwhile).traffic.reports = t.servers.mapIdx (fun i s =>
          ⟨s.protocol, s.serving.length, (s.unfinished i (g.inTime meanwhile)).length⟩) ∧
        ∀ r ∈ (g.drain meanwhile).traffic.servers, r.stage = .stopped ∧ r.held = [] := by
  intro t
  have hsettled : t.Settled slots := settled_run slots protocols before
  refine ⟨fun s hs => ?_, fun i s hs hruns => ⟨fun meanwhile later hexpire => ?_, fun later => ?_⟩,
    fun g meanwhile htraffic hruns hmeanwhile => ?_⟩
  · have haccounts := accounts_run slots protocols before s hs
    exact ⟨haccounts.forced_le, fun h => (List.append_eq_nil_iff.1 (haccounts.emptied h)).2⟩
  · have hdrains := drains_run hs (hsettled.nodup_serving hs) hruns hexpire
    obtain ⟨r, hr, hdraining⟩ := hdrains.server
    exact ⟨⟨r, hr, hdraining.opened, hdraining.serving⟩, hdrains.finished,
      hdrains.endedWith_expire.2, hdrains.endedWith_expire.1.run later,
      fun hnone => (hdrains.endedWith_drained hnone).run later⟩
  · have hend := endedWith_abandon hs hruns
    exact ⟨hend.2, hend.1.run later⟩
  · rw [← htraffic] at hsettled hruns ⊢
    exact ⟨Gateway.reports_drain hsettled hmeanwhile hruns,
      Gateway.servers_drain hsettled hmeanwhile hruns⟩

/-- Two connections are accepted and served by the first server, and then no more can come. -/
def twoServed : List TrafficStep :=
  [.connect, .connect, .takeSlot, .accept, .takeSlot, .accept, .classify 0 0, .classify 1 0,
    .handOver 0, .handOver 1, .take 0, .take 0, .stopAccepting, .exhaust 0]

/-- The server is told to stop, and one of the two connections finishes in time; so it is in the
shutdown of a launched process. -/
theorem drain_counts_two :
    let t := (ofSlots 10000 ["http1", "http2"]).run twoServed
    (t.run [.stop 0, .finish 0 1, .expire 0]).EndedWith 0 ⟨"http1", 2, 1⟩ ∧
      ∃ g : Gateway BuiltInModule, g.traffic = t ∧
        (g.drain [.finish 0 1]).traffic.reports = [⟨"http1", 2, 1⟩, ⟨"http2", 0, 0⟩] := by
  obtain ⟨g, hg⟩ : ∃ g, ({} : Context BuiltInModule).launch.2 = .ok g := ⟨_, rfl⟩
  have htraffic : (g.advance twoServed).traffic =
      (ofSlots 10000 ["http1", "http2"]).run twoServed := by
    cases hg
    rfl
  obtain ⟨-, hserver, hprocess⟩ :=
    drain_counts (M := BuiltInModule) 10000 ["http1", "http2"] twoServed
  obtain ⟨hreports, -⟩ :=
    hprocess (g.advance twoServed) [.finish 0 1] htraffic (by decide) (by simp)
  have htime : (g.advance twoServed).inTime [.finish 0 1] = [.finish 0 1] := by
    cases hg
    rfl
  refine ⟨((hserver 0 _ rfl rfl).1 [.finish 0 1] [] (by decide)).2.2.2.1, g.advance twoServed,
    htraffic, hreports.trans ?_⟩
  rw [htime]
  rfl

end Traffic

end ProtocolGateway

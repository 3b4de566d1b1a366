import ProtocolGateway.Traffic.Connections

/-!
# What a step can do to connections

A step that is not possible where it stands changes nothing. The others are listed here once, each
with what it needs and what it leaves behind, so that what holds along a run can be read off the
list, case by case, without looking into the definition of a step again.

Steps of one kind have one case. A server that takes, notices or is told something changes only
itself; and in whatever way it ends, its queue is closed unserved and what it serves is cut off.

## Main definitions

* `Server.Turns`, `Server.Ends`: what a server does by itself, and how it ends.
* `Traffic.Moves`: what a step can do.
* `Server.Changes`, `Server.LateChanges`: what a step can do to one server and its connections, and
  what is left of that when the server was told to stop.

## Main results

* `Traffic.step_cases`: a step does nothing else.
* `Traffic.server_step`: nor does it to one server.
-/

namespace ProtocolGateway

namespace Server

/-- What the server at a place does by itself. -/
inductive Turns (s : Server) (i : Nat) : TrafficStep → Server → Prop where
  | take (connection : Nat) (queue : List Nat) (hstage : s.stage = .accepting)
    (hqueue : s.queue = connection :: queue) :
    Turns s i (.take i) { s with queue, serving := s.serving ++ [connection] }
  | notice (hstage : s.stage = .accepting) : Turns s i (.notice i) { s with done := s.done.tail }
  | stop (hruns : s.runs = true) :
    Turns s i (.stop i) { s with stage := .draining, done := [], opened := s.serving.length }

/-- How the server at a place ends. -/
inductive Ends (s : Server) (i : Nat) : TrafficStep → Server → Prop where
  | drained (hstage : s.stage = .draining) (hserving : s.serving = []) :
    Ends s i (.drained i) (s.ended 0)
  | expired (hstage : s.stage = .draining) : Ends s i (.expire i) (s.ended s.serving.length)
  | abandoned (hruns : s.runs = true) :
    Ends s i (.abandon i) ({ s with opened := s.serving.length }.ended s.serving.length)

/-- What a step can do to the server at a place, with the connections of that server that it
closes. -/
inductive Changes (s : Server) (i : Nat) :
    TrafficStep → Server → List (Nat × Closing) → Prop where
  | enqueue (c : Nat) (hlistens : s.listens = true) :
    Changes s i (.handOver c) (s.enqueue c) []
  | exhaust (hstage : s.stage = .accepting) (hqueue : s.queue = []) :
    Changes s i (.exhaust i) { s with stage := .exhausted } []
  | finish (c : Nat) (hc : c ∈ s.serving) :
    Changes s i (.finish i c) (s.finish c) [(c, .finished)]
  | turn {e : TrafficStep} {s' : Server} (h : s.Turns i e s') : Changes s i e s' []
  | ending {e : TrafficStep} {s' : Server} (h : s.Ends i e s') :
    Changes s i e s' (s.queue.map (·, .unserved) ++ s.serving.map (·, .forced))

variable {s s' : Server} {i : Nat} {e : TrafficStep} {closings : List (Nat × Closing)}

theorem listens_of_runs (hruns : s.runs = true) : s.listens = true := by
  rw [runs] at hruns
  rw [listens]
  cases hstage : s.stage <;> simp [hstage] at hruns ⊢

theorem runs_of_accepting (hstage : s.stage = .accepting) : s.runs = true := by
  rw [runs, hstage]
  rfl

theorem runs_of_draining (hstage : s.stage = .draining) : s.runs = false := by
  rw [runs, hstage]
  rfl

theorem runs_of_stopped (hstage : s.stage = .stopped) : s.runs = false := by
  rw [runs, hstage]
  rfl

/-- What can happen to a server that does not run any more. -/
inductive LateChanges (s : Server) (i : Nat) :
    TrafficStep → Server → List (Nat × Closing) → Prop where
  | enqueue (c : Nat) (hlistens : s.listens = true) :
    LateChanges s i (.handOver c) (s.enqueue c) []
  | finish (c : Nat) (hc : c ∈ s.serving) :
    LateChanges s i (.finish i c) (s.finish c) [(c, .finished)]
  | drained (hstage : s.stage = .draining) (hserving : s.serving = []) :
    LateChanges s i (.drained i) (s.ended 0)
      (s.queue.map (·, .unserved) ++ s.serving.map (·, .forced))
  | expired (hstage : s.stage = .draining) :
    LateChanges s i (.expire i) (s.ended s.serving.length)
      (s.queue.map (·, .unserved) ++ s.serving.map (·, .forced))

theorem Changes.late (h : s.Changes i e s' closings)
    (hs : s.runs = false) : s.LateChanges i e s' closings := by
  have hidle {P : Prop} (hruns : s.runs = true) : P := Bool.noConfusion (hs.symm.trans hruns)
  cases h with
  | enqueue c hlistens => exact .enqueue c hlistens
  | exhaust hstage => exact hidle (runs_of_accepting hstage)
  | finish c hc => exact .finish c hc
  | turn h =>
    cases h with
    | take _ _ hstage => exact hidle (runs_of_accepting hstage)
    | notice hstage => exact hidle (runs_of_accepting hstage)
    | stop hruns => exact hidle hruns
  | ending h =>
    cases h with
    | drained hstage hserving => exact .drained hstage hserving
    | expired hstage => exact .expired hstage
    | abandoned hruns => exact hidle hruns

theorem Changes.protocol (h : s.Changes i e s' closings) : s'.protocol = s.protocol := by
  cases h with
  | enqueue | exhaust | finish => rfl
  | turn h => cases h <;> rfl
  | ending h => cases h <;> rfl

/-- A server that was told to stop never runs again. -/
theorem Changes.runs_eq_false (h : s.Changes i e s' closings) (hs : s.runs = false) :
    s'.runs = false := by
  cases h.late hs with
  | enqueue | finish => exact hs
  | drained | expired => rfl

theorem Changes.stopped (h : s.Changes i e s' closings) (hs : s.stage = .stopped) :
    s'.stage = .stopped := by
  cases h.late (runs_of_stopped hs) with
  | enqueue | finish => exact hs
  | drained | expired => rfl

/-- Only a server that listens can end. -/
theorem Ends.listens (h : s.Ends i e s') : s.listens = true := by
  cases h with
  | drained hstage => rw [Server.listens, hstage]; rfl
  | expired hstage => rw [Server.listens, hstage]; rfl
  | abandoned hruns => exact listens_of_runs hruns

theorem take_cases (s : Server) : s.take = s ∨ s.Turns i (.take i) s.take := by
  rw [take]
  split
  · next c queue hstage hqueue => exact .inr (.take c queue hstage hqueue)
  · exact .inl rfl

theorem notice_cases (s : Server) : s.notice = s ∨ s.Turns i (.notice i) s.notice := by
  rw [notice]
  split
  · next hstage => exact .inr (.notice hstage)
  · exact .inl rfl

theorem stop_cases (s : Server) : s.stop = s ∨ s.Turns i (.stop i) s.stop := by
  rw [stop]
  split
  · next hruns => exact .inr (.stop hruns)
  · exact .inl rfl

theorem drained_cases (s : Server) : s.drained = s ∨ s.Ends i (.drained i) s.drained := by
  rw [drained]
  split
  · next h =>
    simp only [Bool.and_eq_true, decide_eq_true_eq, List.isEmpty_iff] at h
    exact .inr (.drained h.1 h.2)
  · exact .inl rfl

theorem expire_cases (s : Server) : s.expire = s ∨ s.Ends i (.expire i) s.expire := by
  rw [expire]
  split
  · next hstage => exact .inr (.expired hstage)
  · exact .inl rfl

theorem abandon_cases (s : Server) : s.abandon = s ∨ s.Ends i (.abandon i) s.abandon := by
  rw [abandon, stop]
  split
  · next hruns => exact .inr (.abandoned hruns)
  · exact .inl rfl

end Server

namespace Traffic

/-- Puts a server in the place of another one. -/
def put (server : Nat) (s : Server) (t : Traffic) : Traffic :=
  { t with servers := t.servers.set server s }

/-- What a step can do. -/
inductive Moves (t : Traffic) : TrafficStep → Traffic → Prop where
  | connect : Moves t .connect { t with waiting := t.waiting + 1 }
  | takeSlot (hloop : t.loop = .idle) (hfree : t.free ≠ 0) :
    Moves t .takeSlot { t with loop := .holding, free := t.free - 1 }
  | accept (hloop : t.loop = .holding) (hwaiting : t.waiting ≠ 0) :
    Moves t .accept
      { t with
        loop := .idle, waiting := t.waiting - 1, accepted := t.accepted + 1
        peeking := t.peeking ++ [t.accepted] }
  | acceptFails (hloop : t.loop = .holding) :
    Moves t .acceptFails { t with loop := .idle, free := t.free + 1 }
  | stopAccepting : Moves t .stopAccepting { t with loop := .stopped, free := t.free + t.inHand }
  | drop (c : Nat) (reason : DropReason) (hc : c ∈ t.peeking) :
    Moves t (.drop c reason)
      ({ t with
        peeking := t.peeking.erase c
        metrics := t.metrics.add (.droppedConnections reason.label) 1 }.close [c] (.dropped reason))
  | classify (c i : Nat) (s : Server) (hs : t.servers[i]? = some s) (hc : c ∈ t.peeking) :
    Moves t (.classify c i)
      { t with
        peeking := t.peeking.erase c
        handing := t.handing ++ [(c, i)]
        metrics := t.metrics.add (.connections s.protocol) 1 }
  | refuse (c i : Nat) (s : Server) (hc : t.handing.find? (·.1 = c) = some (c, i))
    (hs : t.servers[i]? = some s) (hlistens : s.listens = false) :
    Moves t (.handOver c) ({ t with handing := t.handing.erase (c, i) }.close [c] .unwanted)
  | enqueue (c i : Nat) (s : Server) (hc : t.handing.find? (·.1 = c) = some (c, i))
    (hs : t.servers[i]? = some s) (hlistens : s.listens = true) (hroom : s.hasRoom = true) :
    Moves t (.handOver c) ({ t with handing := t.handing.erase (c, i) }.put i (s.enqueue c))
  | exhaust (i : Nat) (s : Server) (hs : t.servers[i]? = some s) (hquiet : t.isQuiet = true)
    (hstage : s.stage = .accepting) (hqueue : s.queue = []) :
    Moves t (.exhaust i) (t.put i { s with stage := .exhausted })
  | finish (i c : Nat) (s : Server) (hs : t.servers[i]? = some s) (hc : c ∈ s.serving) :
    Moves t (.finish i c) ((t.put i (s.finish c)).close [c] .finished)
  | turn (i : Nat) {e : TrafficStep} {s s' : Server} (hs : t.servers[i]? = some s)
    (h : s.Turns i e s') : Moves t e (t.put i s')
  | ending (i : Nat) {e : TrafficStep} {s s' : Server} (hs : t.servers[i]? = some s)
    (h : s.Ends i e s') :
    Moves t e (((t.put i s').close s.queue .unserved).close s.serving .forced)

variable {t t' : Traffic} {e : TrafficStep} {i : Nat} {s : Server}

theorem modify_eq_put (hs : t.servers[i]? = some s) (f : Server → Server) :
    t.modify i f = t.put i (f s) := by
  have hset : t.servers.modify i f = t.servers.set i (f s) := by
    obtain ⟨hi, rfl⟩ := List.getElem?_eq_some_iff.1 hs
    refine List.ext_getElem? fun j => ?_
    rw [List.getElem?_modify, List.getElem?_set]
    by_cases hij : i = j
    · subst hij
      simp [hi]
    · simp [hij]
  rw [modify, put, hset]

theorem modify_eq_self (hs : t.servers[i]? = none) (f : Server → Server) : t.modify i f = t := by
  rw [modify, List.modify_eq_self (List.getElem?_eq_none_iff.1 hs)]

theorem put_self (hs : t.servers[i]? = some s) : t.put i s = t := by
  obtain ⟨hi, rfl⟩ := List.getElem?_eq_some_iff.1 hs
  rw [put, List.set_getElem_self]

/-- A server that stays as it is does not end. -/
theorem letGo_eq_self {f : Server → Server} (h : ∀ s, t.servers[i]? = some s → f s = s) :
    t.letGo i f = t := by
  rw [letGo]
  split
  · rfl
  · next s hs =>
    have hsame : t.modify i f = t := by rw [modify_eq_put hs, h s hs, put_self hs]
    simp [h s hs, hsame]

/-- A server that ends lets go of all its connections. -/
theorem letGo_of_ends {f : Server → Server} (hs : t.servers[i]? = some s)
    (h : s.Ends i e (f s)) :
    t.letGo i f = ((t.put i (f s)).close s.queue .unserved).close s.serving .forced := by
  have hended : (f s).listens = false := by
    generalize f s = s' at h
    cases h <;> rfl
  simp [letGo, hs, h.listens, hended, modify_eq_put hs]

theorem modify_cases {f : Server → Server} (h : ∀ s : Server, f s = s ∨ s.Turns i e (f s)) :
    t.modify i f = t ∨ t.Moves e (t.modify i f) := by
  cases hs : t.servers[i]? with
  | none => exact .inl (modify_eq_self hs f)
  | some s =>
    rw [modify_eq_put hs]
    rcases h s with hsame | hturns
    · exact .inl (hsame.symm ▸ put_self hs)
    · exact .inr (.turn i hs hturns)

theorem letGo_cases {f : Server → Server} (h : ∀ s : Server, f s = s ∨ s.Ends i e (f s)) :
    t.letGo i f = t ∨ t.Moves e (t.letGo i f) := by
  cases hs : t.servers[i]? with
  | none => exact .inl (letGo_eq_self fun s hs' => by rw [hs] at hs'; cases hs')
  | some s =>
    rcases h s with hsame | hends
    · refine .inl (letGo_eq_self fun s' hs' => ?_)
      obtain rfl := Option.some.inj (hs.symm.trans hs')
      exact hsame
    · rw [letGo_of_ends hs hends]
      exact .inr (.ending i hs hends)

theorem handOver_cases (t : Traffic) (c : Nat) :
    t.step (.handOver c) = t ∨ t.Moves (.handOver c) (t.step (.handOver c)) := by
  rw [step]
  split
  · exact .inl rfl
  · next c' i hfound =>
    have hc : c' = c := by simpa using List.find?_some hfound
    subst hc
    rw [handTo]
    split
    · exact .inl rfl
    · next s hs =>
      simp only
      split
      · next hlistens => exact .inr (.refuse c' i s hfound hs (by simpa using hlistens))
      · next hlistens =>
        split
        · next hroom =>
          rw [modify_eq_put (t := { t with handing := t.handing.erase (c', i) }) hs]
          exact .inr (.enqueue c' i s hfound hs (by simpa using hlistens) hroom)
        · exact .inl rfl

/-- **A step does nothing else.** -/
theorem step_cases (t : Traffic) (e : TrafficStep) : t.step e = t ∨ t.Moves e (t.step e) := by
  cases e with
  | connect => exact .inr .connect
  | takeSlot =>
    rw [step]
    split
    · next h =>
      simp only [Bool.and_eq_true, decide_eq_true_eq] at h
      exact .inr (.takeSlot h.1 (by simpa using h.2))
    · exact .inl rfl
  | accept =>
    rw [step]
    split
    · next h =>
      simp only [Bool.and_eq_true, decide_eq_true_eq] at h
      exact .inr (.accept h.1 (by simpa using h.2))
    · exact .inl rfl
  | acceptFails =>
    rw [step]
    split
    · next hloop => exact .inr (.acceptFails hloop)
    · exact .inl rfl
  | drop c reason =>
    rw [step]
    split
    · next hc => exact .inr (.drop c reason (by simpa using hc))
    · exact .inl rfl
  | classify c i =>
    rw [step]
    split
    · exact .inl rfl
    · next s hs =>
      split
      · next hc => exact .inr (.classify c i s hs (by simpa using hc))
      · exact .inl rfl
  | handOver c => exact t.handOver_cases c
  | take i => exact modify_cases Server.take_cases
  | finish i c =>
    rw [step]
    split
    · exact .inl rfl
    · next s hs =>
      split
      · next hc =>
        rw [modify_eq_put hs]
        exact .inr (.finish i c s hs (by simpa using hc))
      · exact .inl rfl
  | notice i => exact modify_cases Server.notice_cases
  | stopAccepting => exact .inr .stopAccepting
  | exhaust i =>
    rw [step]
    split
    · next hquiet =>
      cases hs : t.servers[i]? with
      | none => exact .inl (modify_eq_self hs _)
      | some s =>
        rw [modify_eq_put hs, Server.exhaust]
        split
        · next h =>
          simp only [Bool.and_eq_true, decide_eq_true_eq, List.isEmpty_iff] at h
          exact .inr (.exhaust i s hs hquiet h.1 h.2)
        · exact .inl (put_self hs)
    · exact .inl rfl
  | stop i => exact modify_cases Server.stop_cases
  | drained i => exact letGo_cases Server.drained_cases
  | expire i => exact letGo_cases Server.expire_cases
  | abandon i => exact letGo_cases Server.abandon_cases

/-! ### The accept loop -/

theorem Moves.loop_stopped (h : t.Moves e t') (hloop : t.loop = .stopped) :
    t'.loop = .stopped ∧ t'.accepted = t.accepted := by
  cases h with
  | takeSlot hidle => rw [hloop] at hidle; cases hidle
  | accept hholding => rw [hloop] at hholding; cases hholding
  | acceptFails hholding => rw [hloop] at hholding; cases hholding
  | connect | stopAccepting | drop | classify | refuse | enqueue | exhaust | finish | turn |
    ending => exact ⟨by first | exact hloop | rfl, rfl⟩

/-- Once the accept loop has stopped, nothing is accepted any more. -/
theorem loop_run (hloop : t.loop = .stopped) (steps : List TrafficStep) :
    (t.run steps).loop = .stopped ∧ (t.run steps).accepted = t.accepted := by
  induction steps generalizing t with
  | nil => exact ⟨hloop, rfl⟩
  | cons e steps ih =>
    have hfirst : (t.step e).loop = .stopped ∧ (t.step e).accepted = t.accepted := by
      rcases t.step_cases e with hsame | hmoves
      · rw [hsame]
        exact ⟨hloop, rfl⟩
      · exact hmoves.loop_stopped hloop
    exact ⟨(ih hfirst.1).1, (ih hfirst.1).2.trans hfirst.2⟩

/-! ### One server -/

theorem Moves.length_servers (h : t.Moves e t') : t'.servers.length = t.servers.length := by
  cases h <;> simp [put, close]

theorem length_servers_run (t : Traffic) (steps : List TrafficStep) :
    (t.run steps).servers.length = t.servers.length := by
  induction steps generalizing t with
  | nil => rfl
  | cons e steps ih =>
    refine (ih (t.step e)).trans ?_
    rcases t.step_cases e with hsame | hmoves
    · rw [hsame]
    · exact hmoves.length_servers

/-- A server has its place from the beginning. -/
theorem exists_server_of_run {steps : List TrafficStep} (hs : (t.run steps).servers[i]? = some s) :
    ∃ r, t.servers[i]? = some r := by
  obtain ⟨hi, -⟩ := List.getElem?_eq_some_iff.1 hs
  rw [length_servers_run] at hi
  exact ⟨_, List.getElem?_eq_getElem hi⟩

theorem getElem?_put (hs : t.servers[i]? = some s) (s' : Server) (j : Nat) :
    (t.put i s').servers[j]? = if i = j then some s' else t.servers[j]? := by
  obtain ⟨hi, -⟩ := List.getElem?_eq_some_iff.1 hs
  rw [put, List.getElem?_set, if_pos hi]

/-- What a step closes comes after all that was closed before. -/
theorem Moves.closed_prefix (h : t.Moves e t') : t.closed <+: t'.closed := by
  cases h with
  | drop => exact List.prefix_append _ _
  | refuse => exact List.prefix_append _ _
  | finish => exact List.prefix_append _ _
  | ending => exact (List.prefix_append _ _).trans (List.prefix_append _ _)
  | connect | takeSlot | accept | acceptFails | stopAccepting | classify | enqueue | exhaust |
    turn => exact List.prefix_refl _

theorem closed_prefix_step (t : Traffic) (e : TrafficStep) : t.closed <+: (t.step e).closed := by
  rcases t.step_cases e with hsame | hmoves
  · exact hsame.symm ▸ List.prefix_refl _
  · exact hmoves.closed_prefix

theorem closed_prefix_run (t : Traffic) (steps : List TrafficStep) :
    t.closed <+: (t.run steps).closed := by
  induction steps generalizing t with
  | nil => exact List.prefix_refl _
  | cons e steps ih => exact (t.closed_prefix_step e).trans (ih (t.step e))

/-- A move of another server, or of none, leaves a server as it is. -/
theorem Moves.server (h : t.Moves e t') (hs : t.servers[i]? = some s) :
    t'.servers[i]? = some s ∨
      ∃ s' closings, t'.servers[i]? = some s' ∧ s.Changes i e s' closings ∧
        closings ⊆ t'.closed := by
  -- a server that changes is the one in question or another one
  have hput {j : Nat} {r r' : Server} {closings : List (Nat × Closing)} (closed : List _)
      (hr : t.servers[j]? = some r) (hchanges : r.Changes j e r' closings)
      (hclosings : closings ⊆ closed) :
      (t.put j r').servers[i]? = some s ∨
        ∃ s' closings, (t.put j r').servers[i]? = some s' ∧ s.Changes i e s' closings ∧
          closings ⊆ closed := by
    rw [getElem?_put hr]
    split
    · next hj =>
      subst hj
      obtain rfl := Option.some.inj (hs.symm.trans hr)
      exact .inr ⟨_, _, rfl, hchanges, hclosings⟩
    · exact .inl hs
  cases h with
  | enqueue c j r _ hr hlistens _ => exact hput _ hr (.enqueue c hlistens) (List.nil_subset _)
  | exhaust j r hr _ hstage hqueue =>
    exact hput _ hr (.exhaust hstage hqueue) (List.nil_subset _)
  | finish j c r hr hc =>
    exact hput _ hr (.finish c hc) (List.subset_append_right _ _)
  | turn j hr hturns => exact hput _ hr (.turn hturns) (List.nil_subset _)
  | ending j hr hends =>
    refine hput _ hr (.ending hends) ?_
    simp only [close, put, List.append_assoc]
    exact List.subset_append_right _ _
  | connect | takeSlot | accept | acceptFails | stopAccepting | drop | classify | refuse =>
    exact .inl hs

/-- **What a step does to one server**, and which connections of it are closed. -/
theorem server_step (hs : t.servers[i]? = some s) (e : TrafficStep) :
    (t.step e).servers[i]? = some s ∨
      ∃ s' closings, (t.step e).servers[i]? = some s' ∧ s.Changes i e s' closings ∧
        closings ⊆ (t.step e).closed := by
  rcases t.step_cases e with hsame | hmoves
  · exact .inl (by rw [hsame, hs])
  · exact hmoves.server hs

/-- What every change of a server keeps is kept along a run. -/
theorem exists_server_run {P : Server → Prop}
    (hP : ∀ e s s' closings, s.Changes i e s' closings → P s → P s')
    (hs : t.servers[i]? = some s) (h : P s) (steps : List TrafficStep) :
    ∃ r, (t.run steps).servers[i]? = some r ∧ P r := by
  induction steps generalizing t s with
  | nil => exact ⟨s, hs, h⟩
  | cons e steps ih =>
    rcases server_step hs e with hsame | ⟨s', closings, hs', hchanges, -⟩
    · exact ih hsame h
    · exact ih hs' (hP e s s' closings hchanges h)

/-- What is known of each server after a run makes up what is known of them all. -/
theorem map_servers_run {α : Type} {g : Server → α} {f : Nat → Server → α}
    {steps : List TrafficStep}
    (h : ∀ i s, t.servers[i]? = some s → ∃ r, (t.run steps).servers[i]? = some r ∧ g r = f i s) :
    (t.run steps).servers.map g = t.servers.mapIdx f := by
  refine List.ext_getElem? fun i => ?_
  rw [List.getElem?_map, List.getElem?_mapIdx]
  cases hs : t.servers[i]? with
  | none =>
    rw [List.getElem?_eq_none_iff, ← length_servers_run t steps] at hs
    rw [List.getElem?_eq_none hs]
    rfl
  | some s =>
    obtain ⟨r, hr, hg⟩ := h i s hs
    rw [hr, Option.map_some, Option.map_some, hg]

/-- A server stays as it is as long as nothing that happens is about it. -/
theorem server_run_of_not_changes (hs : t.servers[i]? = some s) {steps : List TrafficStep}
    (h : ∀ e ∈ steps, ∀ s' closings, ¬s.Changes i e s' closings) :
    (t.run steps).servers[i]? = some s := by
  induction steps generalizing t with
  | nil => exact hs
  | cons e steps ih =>
    refine ih ?_ fun e he => h e (List.mem_cons_of_mem _ he)
    rcases server_step hs e with hsame | ⟨s', closings, -, hchanges, -⟩
    · exact hsame
    · exact absurd hchanges (h e List.mem_cons_self s' closings)

theorem run_append (t : Traffic) (steps later : List TrafficStep) :
    t.run (steps ++ later) = (t.run steps).run later := List.foldl_append

end Traffic

end ProtocolGateway

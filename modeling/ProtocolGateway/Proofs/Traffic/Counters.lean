import ProtocolGateway.Proofs.Peek.Reasons
import ProtocolGateway.Proofs.Peek.Replay
import ProtocolGateway.Proofs.Traffic.Fates
import ProtocolGateway.Traffic.Demultiplexer

/-!
# The counters tell the fates

Every connection on which there is a decision was counted once, under the label of the matcher that
has won it or under the reason for which it was dropped. So the counters can be read off the
decisions, and their sum is the number of the connections that are not being looked at any more.

The same is true of connections that come one after another and of those that are on their way at
once, whatever the order of the steps.

## Main definitions

* `Peek.Outcome.counter`: the counter that tells an outcome.
* `Demultiplexer.outcome`: what is decided on a client.
* `Traffic.Counted`: what holds of the counters at any time.

## Main results

* `Demultiplexer.counted_run`: the counters of connections one after another.
* `Traffic.Counted.run`: the counters of connections on their way at once.
* `Demultiplexer.one_fate`: each connection has one fate, and the counters tell it.
-/

namespace ProtocolGateway

namespace Metrics

variable {metrics : Metrics} {k m : Metric} {n : Nat}

theorem total_add :
    total ((metrics.add k n).map Prod.snd) = total (metrics.map Prod.snd) + n := by
  rw [add]
  induction metrics with
  | nil => simp [modify, total]
  | cons entry rest ih =>
    obtain ⟨l, a⟩ := entry
    by_cases h : l = k
    · simp only [modify, if_pos h, List.map_cons, total]
      omega
    · simp only [modify, if_neg h, List.map_cons, total, ih]
      omega

end Metrics

/-- The counter that tells an outcome, given the labels of the matchers. -/
def Peek.Outcome.counter (names : List String) : Peek.Outcome → Metric
  | .dropped reason => .droppedConnections reason.label
  | .handler index => .connections (names[index]?.getD "")

/-! ### One after another -/

namespace Demultiplexer

/-- What is decided on a client. -/
def outcome (d : Demultiplexer) (client : Client) : Peek.Outcome :=
  (Peek.read d.matchers d.limit client.ending client.choices [] client.bytes).outcome

/-- The labels of the matchers. -/
def names (d : Demultiplexer) : List String := d.matchers.map (·.name)

/-- A fate is the one that a decision leads to. -/
def Suits (client : Client) (listens : Nat → Bool) : Peek.Outcome → Fate → Prop
  | .dropped reason, fate => fate = .dropped reason
  | .handler index, .handed index' stream =>
    index' = index ∧ listens index = true ∧ stream.remaining = client.bytes
  | .handler index, fate => fate = .unwanted index ∧ listens index = false

variable {d : Demultiplexer} {listens : Nat → Bool} {client : Client}

theorem suits_fate : Suits client listens (d.outcome client) (d.fate listens client) := by
  cases hread : Peek.read d.matchers d.limit client.ending client.choices [] client.bytes with
  | dropped reason => simp [outcome, fate, hread, Peek.Result.outcome, Suits]
  | matched index buffered rest =>
    have hall : buffered ++ rest = client.bytes := (Peek.append_of_read_eq_matched hread).1
    cases hlistens : listens index with
    | false => simp [outcome, fate, hread, Peek.Result.outcome, Suits, hlistens]
    | true =>
      simp [outcome, fate, hread, Peek.Result.outcome, Suits, hlistens, ReplayedStream.remaining,
        hall]

theorem metric_fate : d.metric (d.fate listens client) = (d.outcome client).counter d.names := by
  cases hread : Peek.read d.matchers d.limit client.ending client.choices [] client.bytes with
  | dropped reason =>
    simp [outcome, fate, hread, Peek.Result.outcome, metric, Peek.Outcome.counter]
  | matched index buffered rest =>
    cases hlistens : listens index <;>
      simp [outcome, fate, hread, hlistens, Peek.Result.outcome, metric, Peek.Outcome.counter,
        label, names]

/-- The fates of connections that come one after another are those that they have by themselves. -/
theorem fates_run (metrics : Metrics) (clients : List Client) :
    (d.run listens metrics clients).1 = clients.map (d.fate listens) := by
  induction clients generalizing metrics with
  | nil => rfl
  | cons client clients ih => exact congrArg _ (ih _)

/-- **The counters of connections one after another.** -/
theorem counted_run (metrics : Metrics) (clients : List Client) :
    (∀ m, ((d.run listens metrics clients).2.value? m).getD 0 =
      (metrics.value? m).getD 0 +
        clients.countP fun client => (d.outcome client).counter d.names = m) ∧
    total ((d.run listens metrics clients).2.map Prod.snd) =
      total (metrics.map Prod.snd) + clients.length := by
  induction clients generalizing metrics with
  | nil => exact ⟨fun m => rfl, rfl⟩
  | cons client clients ih =>
    obtain ⟨hvalues, htotal⟩ := ih (metrics.add (d.metric (d.fate listens client)) 1)
    refine ⟨fun m => ?_, ?_⟩
    · rw [run, hvalues m, Metrics.value_add, metric_fate, List.countP_cons]
      simp only [decide_eq_true_eq]
      omega
    · rw [run, htotal, Metrics.total_add, List.length_cons]
      omega

end Demultiplexer

/-! ### At once -/

namespace Traffic

variable {t t' : Traffic} {e : TrafficStep} {outcome : Nat → Peek.Outcome} {names : List String}
variable {steps : List TrafficStep}

/-- What holds of the counters at any time: each tells how many connections were decided on in its
way, and all of them together how many there were. -/
structure Counted (names : List String) (outcome : Nat → Peek.Outcome) (t : Traffic) : Prop where
  protocols : t.servers.map (·.protocol) = names
  values : ∀ m, (t.metrics.value? m).getD 0 +
      t.peeking.countP (fun c => (outcome c).counter names = m) =
    (List.range t.accepted).countP fun c => (outcome c).counter names = m
  all : total (t.metrics.map Prod.snd) + t.peeking.length = t.accepted

theorem counted_ofSlots (slots : Nat) : (ofSlots slots names).Counted names outcome where
  protocols := by simp [ofSlots, Function.comp_def]
  values _ := rfl
  all := rfl

/-- Servers keep their protocols. -/
theorem protocols_step (t : Traffic) (e : TrafficStep) :
    (t.step e).servers.map (·.protocol) = t.servers.map (·.protocol) := by
  have hlength : (t.step e).servers.length = t.servers.length := length_servers_run t [e]
  refine List.ext_getElem? fun i => ?_
  rw [List.getElem?_map, List.getElem?_map]
  cases hs : t.servers[i]? with
  | none =>
    rw [List.getElem?_eq_none_iff, ← hlength, ← List.getElem?_eq_none_iff] at hs
    rw [hs]
  | some s =>
    rcases server_step hs e with hsame | ⟨s', closings, hs', hchanges, -⟩
    · rw [hsame]
    · rw [hs', Option.map_some, Option.map_some, hchanges.protocol]

/-- A connection on which there is a decision is not looked at any more, and is counted. -/
theorem Counted.decide (h : t.Counted names outcome) {c : Nat} (hc : c ∈ t.peeking) {k : Metric}
    (hk : k = (outcome c).counter names) {t' : Traffic} (hpeeking : t'.peeking = t.peeking.erase c)
    (hmetrics : t'.metrics = t.metrics.add k 1) (haccepted : t'.accepted = t.accepted)
    (hprotocols : t'.servers.map (·.protocol) = names) : t'.Counted names outcome := by
  have hmoved := List.perm_cons_erase hc
  refine ⟨hprotocols, fun m => ?_, ?_⟩
  · have hcount := hmoved.countP_eq fun c => (outcome c).counter names = m
    have hvalues := h.values m
    rw [List.countP_cons] at hcount
    simp only [decide_eq_true_eq] at hcount
    rw [hpeeking, hmetrics, haccepted, Metrics.value_add, hk]
    omega
  · have hlength := hmoved.length_eq
    have hall := h.all
    rw [List.length_cons] at hlength
    rw [hpeeking, hmetrics, haccepted, Metrics.total_add]
    omega

/-- What a step counts tells the decision that it makes. -/
theorem Moves.counted (h : t.Moves e t') (hcounted : t.Counted names outcome)
    (he : e.Follows outcome) (hprotocols : t'.servers.map (·.protocol) = names) :
    t'.Counted names outcome := by
  cases h with
  | connect | takeSlot | acceptFails | stopAccepting | refuse | enqueue | exhaust | finish | turn |
    ending => exact ⟨hprotocols, hcounted.values, hcounted.all⟩
  | accept =>
    refine ⟨hprotocols, fun m => ?_, ?_⟩
    · have hvalues := hcounted.values m
      simp only [List.range_succ, List.countP_append]
      omega
    · have hall := hcounted.all
      simp only [List.length_append, List.length_singleton]
      omega
  | drop c reason hc =>
    have hdecided : outcome c = .dropped reason := he
    exact hcounted.decide hc (by rw [hdecided, Peek.Outcome.counter]) rfl rfl rfl hprotocols
  | classify c i s hs hc =>
    have hdecided : outcome c = .handler i := he
    have hname : names[i]? = some s.protocol := by
      rw [← hcounted.protocols, List.getElem?_map, hs]
      rfl
    refine hcounted.decide hc ?_ rfl rfl rfl hprotocols
    rw [hdecided, Peek.Outcome.counter, hname, Option.getD_some]

theorem Counted.step (h : t.Counted names outcome) (he : e.Follows outcome) :
    (t.step e).Counted names outcome := by
  rcases t.step_cases e with hsame | hmoves
  · rwa [hsame]
  · exact hmoves.counted h he ((t.protocols_step e).trans h.protocols)

/-- **The counters of connections on their way at once**, along a whole run. -/
theorem Counted.run (h : t.Counted names outcome) (hsteps : ∀ e ∈ steps, e.Follows outcome) :
    (t.run steps).Counted names outcome := by
  induction steps generalizing t with
  | nil => exact h
  | cons e steps ih =>
    exact ih (h.step (hsteps e List.mem_cons_self)) fun e he => hsteps e (List.mem_cons_of_mem _ he)

/-- The counters, read off the connections on which there is a decision. -/
theorem Counted.values_decided {slots : Nat} (h : t.Counted names outcome)
    (hsettled : t.Settled slots) (m : Metric) :
    (t.metrics.value? m).getD 0 = t.decided.countP fun c => (outcome c).counter names = m := by
  have hvalues := h.values m
  rw [← hsettled.peeking_append_decided.countP_eq, List.countP_append] at hvalues
  omega

theorem Counted.total_decided {slots : Nat} (h : t.Counted names outcome)
    (hsettled : t.Settled slots) : total (t.metrics.map Prod.snd) = t.decided.length := by
  have hall := h.all
  have hlength := hsettled.peeking_append_decided.length_eq
  rw [List.length_append, List.length_range] at hlength
  omega

/-! ### Hand-overs -/

variable {slots c i : Nat} {s : Server}

/-- A connection is handed to one server only. -/
theorem Settled.find?_handing (h : t.Settled slots) (hc : (c, i) ∈ t.handing) :
    t.handing.find? (·.1 = c) = some (c, i) := by
  cases hfound : t.handing.find? (·.1 = c) with
  | none => exact absurd (List.find?_eq_none.1 hfound _ hc) (by simp)
  | some handed =>
    have hfst : handed.1 = c := by simpa using List.find?_some hfound
    have hnodup : (t.handing.map Prod.fst).Nodup :=
      (List.nodup_append.1 (List.nodup_append.1 (List.nodup_append.1 h.nodup).1).1).2.1
    rw [List.inj_on_of_nodup_map hnodup (List.mem_of_find?_eq_some hfound) hc hfst]

/-- A server that does not listen is handed nothing. -/
theorem Settled.refuse (h : t.Settled slots) (hc : (c, i) ∈ t.handing)
    (hs : t.servers[i]? = some s) (hlistens : s.listens = false) :
    (c, .unwanted) ∈ (t.step (.handOver c)).closed := by
  have hstep : t.step (.handOver c) =
      { t with handing := t.handing.erase (c, i) }.close [c] .unwanted := by
    simp [Traffic.step, h.find?_handing hc, handTo, hs, hlistens]
  rw [hstep]
  exact List.mem_append_right _ List.mem_cons_self

/-- A server sees the end when nobody is left who could hand over a connection and nothing waits,
and not before. -/
theorem step_exhaust (hs : t.servers[i]? = some s) (hstage : s.stage = .accepting) :
    (t.step (.exhaust i)).servers[i]? =
      some (if t.isQuiet && s.queue.isEmpty then { s with stage := .exhausted } else s) := by
  by_cases hquiet : t.isQuiet = true
  · have hput : t.step (.exhaust i) = t.put i s.exhaust :=
      (if_pos hquiet).trans (modify_eq_put hs _)
    rw [hput, getElem?_put hs, if_pos rfl, Server.exhaust, hstage, hquiet]
    rfl
  · have hidle : t.step (.exhaust i) = t := if_neg hquiet
    rw [hidle, hs, Bool.eq_false_iff.2 hquiet]
    rfl

/-- A connection comes to a server by a hand-over only, and only while the server listens. -/
theorem handedOver_of_step (hc : (c, .server i) ∈ (t.step e).places) :
    (c, .server i) ∈ t.places ∨
      e = .handOver c ∧ (c, i) ∈ t.handing ∧ ∃ s, t.servers[i]? = some s ∧ s.listens = true := by
  refine (goes_step hc).imp_right fun hgoes => ?_
  cases hgoes with
  | handedOver _ s he hc hs hlistens => exact ⟨he, mem_places_handing.1 hc, s, hs, hlistens⟩

end Traffic

/-! ### One fate -/

namespace Demultiplexer

/-- **Each connection has one fate, and the counters tell it**, whatever the matchers, the clients,
the network and the order of the steps, and whichever servers stop meanwhile.

The decision on a client applies to what it sent, and no other does if the answers of the matchers
persist. Connections that come one after another have the fates that suit the decisions on them, and
each adds one to the counter of its decision.

The same holds of connections on their way at once. Each is in one place. As soon as there is a
decision on it, it was counted once, under that decision, and its place is one to which the decision
leads: it was closed for the one reason that applies, or it is with the server of the matcher that
has won it, or was. It comes there only while the server listens, and is closed otherwise. A server
sees the end when the accept loop has stopped, no first bytes are read and nothing is handed over;
what was meant for it then was taken by it. -/
theorem one_fate (d : Demultiplexer) (clients : Nat → Client) (slots : Nat)
    (steps : List TrafficStep)
    (hsteps : ∀ e ∈ steps, e.Follows fun c => d.outcome (clients c)) :
    let decision (c : Nat) := d.outcome (clients c)
    let t := (Traffic.ofSlots slots d.names).run steps
    (∀ client : Client,
      let applies := Peek.Applies d.matchers d.limit client.ending client.bytes
      applies (d.outcome client) ∧
        ((∀ m ∈ d.matchers, m.Persistent) → ∀ o, applies o ↔ o = d.outcome client)) ∧
    (∀ (listens : Nat → Bool) (metrics : Metrics) (queue : List Client),
      let (fates, after) := d.run listens metrics queue
      fates = queue.map (d.fate listens) ∧
      (∀ client, Suits client listens (d.outcome client) (d.fate listens client)) ∧
      (∀ m, (after.value? m).getD 0 = (metrics.value? m).getD 0 +
        queue.countP fun client => (d.outcome client).counter d.names = m) ∧
      total (after.map Prod.snd) = total (metrics.map Prod.snd) + queue.length) ∧
    t.servers.map (·.protocol) = d.names ∧
    (t.peeking ++ t.decided).Perm (List.range t.accepted) ∧
    (∀ m, (t.metrics.value? m).getD 0 =
      t.decided.countP fun c => (decision c).counter d.names = m) ∧
    total (t.metrics.map Prod.snd) = t.decided.length ∧
    (∀ c < t.accepted, ∃ place, (c, place) ∈ t.places ∧
      (∀ other, (c, other) ∈ t.places → other = place) ∧
      (place = .peeking ∨ t.Leads (decision c) place)) ∧
    (∀ e c i, (c, .server i) ∈ (t.step e).places →
      (c, .server i) ∈ t.places ∨
        e = .handOver c ∧ (c, i) ∈ t.handing ∧ ∃ s, t.servers[i]? = some s ∧ s.listens = true) ∧
    (∀ i s, t.servers[i]? = some s →
      (s.listens = false → ∀ c, (c, i) ∈ t.handing →
        (c, .unwanted) ∈ (t.step (.handOver c)).closed) ∧
      (s.stage = .accepting → (t.step (.exhaust i)).servers[i]? =
        some (if t.isQuiet && s.queue.isEmpty then { s with stage := .exhausted } else s)) ∧
      (s.stage = .exhausted →
        t.loop = .stopped ∧ t.peeking = [] ∧ t.handing = [] ∧ s.queue = [] ∧
        ∀ c < t.accepted, decision c = .handler i →
          c ∈ s.serving ∨ (c, .finished) ∈ t.closed)) := by
  intro decision t
  have hsettled : t.Settled slots := Traffic.settled_run slots d.names steps
  have hcounted : t.Counted d.names decision := (Traffic.counted_ofSlots slots).run hsteps
  have htold : t.Told decision := (Traffic.told_ofSlots slots d.names).run hsteps
  have hend : t.EndSeen := (Traffic.endSeen_ofSlots slots d.names).run steps
  refine ⟨fun client => ⟨Peek.applies_read (Nat.zero_le _), fun hpersistent o =>
      Peek.applies_iff hpersistent client.choices⟩,
    fun listens metrics queue => ⟨fates_run metrics queue, fun client => suits_fate,
      counted_run metrics queue⟩,
    hcounted.protocols, hsettled.peeking_append_decided, hcounted.values_decided hsettled,
    hcounted.total_decided hsettled, fun c hc => ?_, fun e c i => Traffic.handedOver_of_step,
    fun i s hs => ⟨fun hlistens c hc => hsettled.refuse hc hs hlistens, Traffic.step_exhaust hs,
      fun hstage => ?_⟩⟩
  · obtain ⟨place, hplace, honly⟩ := Traffic.exists_unique_place hsettled hc
    exact ⟨place, hplace, honly, htold c place hplace⟩
  · obtain ⟨hquiet, hqueue⟩ := hend i s hs hstage
    obtain ⟨hloop, hpeeking, hhanding⟩ := Traffic.isQuiet_iff.1 hquiet
    exact ⟨hloop, hpeeking, hhanding, hqueue, fun c hc =>
      Traffic.taken_of_exhausted htold hsettled hend hs hstage hc⟩

/-- A client whose protocol is known, one that no matcher accepts, and one that falls silent. -/
theorem one_fate_three :
    let d : Demultiplexer := ⟨[.http1, .http2], 8⟩
    let clients : List Client := [⟨bytesOf "GET /x", .closed, [2, 2, 2]⟩,
      ⟨bytesOf "SSH-2.0", .closed, []⟩, ⟨bytesOf "PRI", .silent, [1]⟩]
    let steps : List TrafficStep := [.connect, .connect, .connect, .takeSlot, .accept, .takeSlot,
      .accept, .takeSlot, .accept, .drop 1 .noMatch, .classify 0 0, .abandon 1, .drop 2 .timeout,
      .handOver 0, .take 0, .stopAccepting, .exhaust 0]
    let t := (Traffic.ofSlots 3 d.names).run steps
    (∀ e ∈ steps, e.Follows fun c => d.outcome (clients[c]?.getD ⟨[], .closed, []⟩)) ∧
    total (t.metrics.map Prod.snd) = 3 ∧ t.servers[0]?.map (·.serving) = some [0] := by
  intro d clients steps t
  have hsteps : ∀ e ∈ steps, e.Follows fun c => d.outcome (clients[c]?.getD ⟨[], .closed, []⟩) := by
    decide +kernel
  have hfate := one_fate d _ 3 steps hsteps
  have htotal : total (t.metrics.map Prod.snd) = t.decided.length := hfate.2.2.2.2.2.1
  refine ⟨hsteps, htotal.trans ?_, ?_⟩
  · decide +kernel
  · decide +kernel

end Demultiplexer

end ProtocolGateway

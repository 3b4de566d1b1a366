import ProtocolGateway.BuiltIn.Operations
import ProtocolGateway.Proofs.Http.Identity
import ProtocolGateway.Proofs.Reload.Delivery
import ProtocolGateway.Proofs.Route.Members

/-!
# Requests are counted once

The layer that counts stands in the primary stack, below those that refuse too long bodies and keep
the time, and above all endpoints, that for missing routes and methods among them. So a request is
counted if it gets that far and is answered in time, and then once, also if it is forwarded: the
secondary stack does not count. The label is the pattern that the primary table has found, and the
status is the one that the client gets, since no layer further out changes it.

What the counters show after a run is shown for all of them at once: whatever number is read off the
metrics, if one request adds to it what depends on its labels only, a run adds what the counted
requests of the run add.

## Main definitions

* `Reply.counts`: what is counted of a request.
* `Gateway.exchanges`: the requests of a run with their replies.
* `Exchange.isCounted`, `Exchange.label`: which of them are counted, under which route.
* `Metrics.sum`: the sum of the metrics of a kind.

## Main results

* `Stacks.counts_service`: what is counted of a request to one of the stacks.
* `Gateway.measure_serveAll`: what a run adds to a number that is read off the metrics.
* `Gateway.requests_counted_once`: the counters after a run.
-/

namespace ProtocolGateway

/-! ### Reading metrics -/

/-- Whether a metric counts requests. -/
def Metric.isRequests : Metric → Bool
  | .requests .. => true
  | _ => false

/-- Whether a metric counts the requests with a method and a route, whatever their status. -/
def Metric.isRequestsOf (method route : String) : Metric → Bool
  | .requests m r _ => m = method && r = route
  | _ => false

/-- Whether a metric tells of requests. -/
def Metric.isOfRequests : Metric → Bool
  | .requests .. | .durations .. => true
  | _ => false

section kinds

variable {m : Metric} {method route : String}

theorem Metric.isRequests_of_not_isOfRequests (h : m.isOfRequests = false) :
    m.isRequests = false := by
  cases m with
  | requests => cases h
  | _ => rfl

theorem Metric.isRequestsOf_of_not_isOfRequests (h : m.isOfRequests = false) :
    m.isRequestsOf method route = false := by
  cases m with
  | requests => cases h
  | _ => rfl

end kinds

namespace Metrics

/-- The sum of all metrics of a kind. -/
def sum (kind : Metric → Bool) : Metrics → Nat
  | [] => 0
  | (m, n) :: rest => (if kind m then n else 0) + sum kind rest

variable {kind : Metric → Bool} {metrics : Metrics} {m : Metric} {n : Nat}

theorem sum_add : (metrics.add m n).sum kind = metrics.sum kind + if kind m then n else 0 := by
  rw [add]
  induction metrics with
  | nil => simp [modify, sum]
  | cons entry rest ih =>
    obtain ⟨k, a⟩ := entry
    by_cases hk : k = m
    · subst hk
      have hfirst : modify k (· + n) ((k, a) :: rest) = (k, a + n) :: rest := if_pos rfl
      rw [hfirst, sum, sum]
      cases kind k
      · simp
      · simp only [if_true]
        omega
    · simp only [modify, sum, if_neg hk, ih]
      omega

theorem sum_modify_of_not_kind (f : Nat → Nat) (hm : kind m = false) :
    (metrics.modify m f).sum kind = metrics.sum kind := by
  induction metrics with
  | nil => simp [modify, sum, hm]
  | cons entry rest ih =>
    obtain ⟨k, a⟩ := entry
    by_cases hk : k = m
    · simp [modify, sum, hk, hm]
    · simp [modify, sum, hk, ih]

theorem sum_of_not_kind (h : ∀ entry ∈ metrics, kind entry.1 = false) : metrics.sum kind = 0 := by
  induction metrics with
  | nil => rfl
  | cons entry rest ih =>
    obtain ⟨hentry, hrest⟩ := List.forall_mem_cons.1 h
    simp [sum, hentry, ih hrest]

theorem sum_set_ready (hkind : kind .ready = false) :
    (metrics.set .ready n).sum kind = metrics.sum kind :=
  sum_modify_of_not_kind _ hkind

theorem sum_addRequest {method route : String} {status : Nat} :
    (metrics.addRequest method route status).sum kind =
      metrics.sum kind + (if kind (.requests method route status) then 1 else 0) +
        if kind (.durations method route) then 1 else 0 := by
  rw [addRequest, sum_add, sum_add]

/-- A counted request adds one to its counter and to the durations, and to nothing else. -/
theorem value_addRequest {method route : String} {status : Nat} :
    ((metrics.addRequest method route status).value? m).getD 0 = (metrics.value? m).getD 0 +
      if .requests method route status = m ∨ .durations method route = m then 1 else 0 := by
  rw [addRequest, value_add, value_add]
  by_cases hrequests : .requests method route status = m
  · subst hrequests
    simp
  · by_cases hdurations : .durations method route = m
    · subst hdurations
      simp
    · simp [hrequests, hdurations]

theorem value_set_ready (hm : .ready ≠ m) :
    ((metrics.set .ready n).value? m).getD 0 = (metrics.value? m).getD 0 := by
  rw [set, value?_modify_of_ne hm]

theorem value?_of_not_mem (h : ∀ entry ∈ metrics, entry.1 ≠ m) : metrics.value? m = none := by
  induction metrics with
  | nil => rfl
  | cons entry rest ih =>
    obtain ⟨hentry, hrest⟩ := List.forall_mem_cons.1 h
    rw [value?, if_neg hentry, ih hrest]

end Metrics

/-! ### What is counted of a reply -/

namespace Reply

/-- What is counted of a request. -/
def counts (reply : Reply) : List RequestEvent := (reply.events.map (·.2)).filter (·.isCount)

/-- The layer that counts adds the request to what was counted before. -/
theorem counts_counted {inner : Service} {r : Request} :
    (Layer.counted inner r).counts = (inner r).counts ++
      [.counted r.method r.routeLabel (inner r).response.status] := by
  simp [counts, Layer.counted, RequestEvent.isCount]

end Reply

/-- Of all that is observed, the metrics show what is counted. -/
theorem Metrics.addReply_eq (reply : Reply) (metrics : Metrics) :
    metrics.addReply reply = reply.counts.foldl (fun m event => match event with
      | .counted method route status => m.addRequest method (String.ofList route) status
      | _ => m) metrics := by
  rw [addReply, Reply.counts]
  induction reply.events generalizing metrics with
  | nil => rfl
  | cons e rest ih =>
    obtain ⟨time, event⟩ := e
    cases event <;> exact ih _

namespace Layer

variable {limit : Nat} {reply : Reply} {r r' : Request}

/-- A time limit keeps what is counted no later than the answer, if that is in time. -/
theorem counts_timed (h : reply.counts = []) :
    (timed limit (fun _ => counted (fun _ => reply) r) r').counts =
      if reply.delay < limit then
        [RequestEvent.counted r.method r.routeLabel reply.response.status]
      else [] := by
  by_cases hlt : reply.delay < limit
  · have hintime : timed limit (fun _ => counted (fun _ => reply) r) r' =
        counted (fun _ => reply) r := if_pos hlt
    rw [hintime, Reply.counts_counted, h, if_pos hlt, List.nil_append]
  · have hlate : (timed limit (fun _ => counted (fun _ => reply) r) r').events =
        (counted (fun _ => reply) r).events.filter (·.1 < limit) :=
      congrArg Reply.events (if_neg hlt)
    have hnone : ∀ e ∈ reply.events, e.2.isCount = false := by
      intro e he
      by_contra hcount
      rw [Bool.not_eq_false] at hcount
      have hmem : e.2 ∈ reply.counts := List.mem_filter.2 ⟨List.mem_map_of_mem he, hcount⟩
      rw [h] at hmem
      exact List.not_mem_nil hmem
    rw [if_neg hlt, Reply.counts, hlate, List.filter_eq_nil_iff]
    intro event hevent
    obtain ⟨e, he, rfl⟩ := List.mem_map.1 hevent
    obtain ⟨he, htime⟩ := List.mem_filter.1 he
    rcases List.mem_append.1 he with he | he
    · simp [hnone e he]
    · rw [List.mem_singleton.1 he] at htime
      simp [hlt] at htime

end Layer

namespace Stacks

variable {g : Stacks} {live : Live} {ids : FreshIds} {request : Request} {fresh : Bytes}
variable {route : Option (List Char)} {allow : Option String} {behind : Reply}

/-- The label under which the primary stack counts a request. -/
def label (g : Stacks) (request : Request) : List Char :=
  (request.enter (g.front.choose request.method request.uri.path).1).routeLabel

theorem counts_shell : (g.shell fresh route allow request behind).counts =
    (Layer.timed g.requestMs (fun _ => behind)
      ((request.enter route).identified fresh)).counts := by
  rw [Reply.counts, events_shell]
  rfl

theorem counts_shell_of_nil (h : behind.counts = []) :
    (g.shell fresh route allow request behind).counts = [] := by
  rw [counts_shell, Layer.timed]
  split
  · exact h
  · rw [Reply.counts, List.filter_eq_nil_iff] at h ⊢
    intro event hevent
    obtain ⟨e, he, rfl⟩ := List.mem_map.1 hevent
    exact h e.2 (List.mem_map_of_mem (List.mem_filter.1 he).1)

/-- A stack with a layer that counts: the request is counted if the stack has not run out of time,
with the status that the stack answers. -/
theorem counts_of_eq_shell {answer reply : Reply} {r : Request} (h : reply.counts = [])
    (hanswer : answer =
      g.shell fresh route allow request (Layer.counted (fun _ => reply) r)) :
    answer.counts =
      if answer.delay < g.requestMs then
        [RequestEvent.counted r.method r.routeLabel answer.response.status]
      else [] := by
  rw [hanswer, counts_shell, Layer.counts_timed h, delay_shell, status_shell, Reply.within]
  have hdelay : (Layer.counted (fun _ => reply) r).delay = reply.delay := rfl
  by_cases hlt : reply.delay < g.requestMs
  · simp only [hdelay, Nat.min_eq_left hlt.le, if_pos hlt]
    rfl
  · rw [hdelay, if_neg hlt, if_neg (by omega)]

/-- The secondary stack does not count. -/
theorem counts_secondary : (g.secondary live ids request).counts = [] := by
  rcases hchoose : g.back.choose request.method request.uri.path with ⟨route, choice⟩
  rw [secondary_eq_shell hchoose]
  refine counts_shell_of_nil ?_
  cases choice <;> rfl

/-- No endpoint of the primary table counts. -/
theorem counts_choice {choice : Table.Choice Endpoint}
    (h : g.front.choose request.method request.uri.path = (route, choice)) :
    (choice.service (g.endpointService live ids)
      ((request.enter route).admitted fresh g.maxBodyBytes)).counts = [] := by
  cases choice with
  | endpoint endpoint =>
    cases endpoint with
    | handler => rfl
    | forward =>
      simp only [Table.Choice.service, forward_admitted h]
      cases request.uri.below? g.reserved with
      | none => rfl
      | some uri => exact counts_secondary
  | wrongMethod => rfl
  | notFound => rfl

/-- The label of a request that comes from a client, and so shows no pattern yet: the pattern of a
route that the path has the form of, if there is any. -/
theorem label_cases (g : Stacks) (hroute : request.route = none) :
    (∃ r ∈ g.front.routes, r.pattern.matchesPath request.uri.path = true ∧
      g.label request = r.pattern.text) ∨
    ((∀ r ∈ g.front.routes, r.pattern.matchesPath request.uri.path = false) ∧
      g.label request = "<unmatched>".toList) := by
  cases hfound : g.front.find? request.uri.path with
  | none =>
    right
    have hnone : g.label request = request.routeLabel := by
      simp only [label, Table.choose, hfound]
      rfl
    refine ⟨fun r hr => ?_, by rw [hnone, Request.routeLabel, hroute, Option.getD_none]⟩
    rw [Table.find?] at hfound
    split at hfound
    · next hnomatch =>
      rw [List.filter_eq_nil_iff] at hnomatch
      simpa using hnomatch r hr
    · cases hfound
  | some r =>
    left
    obtain ⟨hr, hmatches⟩ := List.mem_filter.1 (Table.mem_filter_of_find? hfound)
    refine ⟨r, hr, hmatches, ?_⟩
    simp only [label, Table.choose, hfound, Request.enter, Request.routeLabel, hroute]
    rfl

/-- **What is counted of a request**: nothing if it comes in at the secondary stack, if it is
refused for its length, or if the primary stack has run out of time for it, and otherwise the
request itself, with the status that the client gets. -/
theorem counts_service (entrance : Gateway.Entrance) :
    (g.service live ids entrance request).counts =
      if entrance = .primary ∧ (∀ n ∈ request.headers.announcedLength?, n ≤ g.maxBodyBytes) ∧
          (g.service live ids entrance request).delay < g.requestMs then
        [RequestEvent.counted request.method (g.label request)
          (g.service live ids entrance request).response.status]
      else [] := by
  cases entrance with
  | secondary => exact counts_secondary
  | primary =>
    rcases hchoose : g.front.choose request.method request.uri.path with ⟨route, choice⟩
    have hlabel : g.label request = (request.enter route).routeLabel := by
      rw [label, hchoose]
    have hreply : g.service live ids .primary request = _ := primary_eq_shell hchoose
    by_cases hadmits : g.Admits request
    · rw [if_pos hadmits] at hreply
      have hmethod : ((request.enter route).admitted ids.primary g.maxBodyBytes).method =
          request.method := by
        cases route <;> rfl
      rw [counts_of_eq_shell (counts_choice hchoose) hreply, hmethod, hlabel]
      by_cases htime : (g.service live ids .primary request).delay < g.requestMs
      · rw [if_pos htime, if_pos ⟨rfl, hadmits.length, htime⟩]
        rfl
      · rw [if_neg htime, if_neg fun h => htime h.2.2]
    · have hrefused : ¬((∀ n ∈ request.headers.announcedLength?, n ≤ g.maxBodyBytes) ∧
          (g.service live ids .primary request).delay < g.requestMs) := fun h =>
        hadmits ⟨Nat.zero_lt_of_lt h.2, h.1⟩
      rw [if_neg fun h => hrefused h.2, hreply, if_neg hadmits]
      exact counts_shell_of_nil rfl

end Stacks

/-! ### A run -/

/-- A request that came in, with the reply to it. -/
structure Exchange where
  entrance : Gateway.Entrance
  request : Request
  reply : Reply

namespace Exchange

/-- Whether the primary stack has handled a request: it did not refuse the request for its length,
and has not run out of time. A reply that takes as long as a request may is the one that says that
time is up. -/
def isCounted (g : Stacks) (x : Exchange) : Bool :=
  x.entrance = .primary && x.request.headers.announcedLength?.all (· ≤ g.maxBodyBytes) &&
    x.reply.delay < g.requestMs

/-- The route under which a request is counted. -/
def route (g : Stacks) (x : Exchange) : String := String.ofList (g.label x.request)

/-- The counter of a request. -/
def counter (g : Stacks) (x : Exchange) : Metric :=
  .requests x.request.method (x.route g) x.reply.response.status

end Exchange

/-- The request of an occurrence, if it is one. -/
def Occurrence.request? : Occurrence → Option (Gateway.Entrance × Request)
  | .request entrance _ r => some (entrance, r)
  | _ => none

namespace Gateway

variable {M : Type} {g : Gateway M} {o : Occurrence} {occurrences : List Occurrence}

/-- The requests among occurrences, with the replies to them. -/
def exchanges [Log.Patterns] (g : Gateway M) (occurrences : List Occurrence) : List Exchange :=
  List.zipWith (fun (entrance, request) reply => ⟨entrance, request, reply⟩)
    (occurrences.filterMap (·.request?)) (g.serveAll occurrences).2

theorem exchanges_request [Log.Patterns] {entrance : Entrance} {ids : FreshIds}
    {request : Request} :
    g.exchanges (.request entrance ids request :: occurrences) =
      ⟨entrance, request, (g.answer entrance ids request).2⟩ ::
        (g.answer entrance ids request).1.exchanges occurrences := rfl

theorem exchanges_of_request?_eq_none [Log.Patterns] (h : o.request? = none) :
    g.exchanges (o :: occurrences) = (g.occur o).1.exchanges occurrences := by
  cases o with
  | request => cases h
  | file | ready | traffic => rfl

/-- The stacks stay what they are. -/
theorem serving_occur [Log.Patterns] (o : Occurrence) (g : Gateway M) :
    (g.occur o).1.serving = g.serving := by
  cases o with
  | file e =>
    obtain ⟨c, watch, hnotice, -⟩ := exists_notice_eq e g
    exact congrArg (·.serving) hnotice
  | request | ready | traffic => rfl

theorem serving_serveAll [Log.Patterns] (occurrences : List Occurrence) (g : Gateway M) :
    (g.serveAll occurrences).1.serving = g.serving := by
  induction occurrences generalizing g with
  | nil => rfl
  | cons o rest ih => exact (ih (g.occur o).1).trans (serving_occur o g)

theorem respond_eq (entrance : Entrance) (ids : FreshIds) (request : Request) :
    g.respond entrance ids request = g.serving.service g.live ids entrance request := by
  cases entrance <;> rfl

/-- What an answer does to the metrics. -/
theorem metrics_answer {entrance : Entrance} {ids : FreshIds} {request : Request} :
    let x : Exchange := ⟨entrance, request, (g.answer entrance ids request).2⟩
    (g.answer entrance ids request).1.context.metrics =
      if x.isCounted g.serving then
        g.context.metrics.addRequest request.method (x.route g.serving) x.reply.response.status
      else g.context.metrics := by
  intro x
  have hreply : x.reply = g.serving.service g.live ids entrance request := respond_eq ..
  have hcounts : x.reply.counts = _ := hreply ▸ Stacks.counts_service entrance
  have hmetrics : (g.answer entrance ids request).1.context.metrics =
      g.context.metrics.addReply x.reply := rfl
  rw [hmetrics, Metrics.addReply_eq, hcounts]
  by_cases hcounted : x.isCounted g.serving = true
  · rw [if_pos hcounted, if_pos]
    · rfl
    · simpa [Exchange.isCounted, and_assoc, Option.all_eq_true] using hcounted
  · rw [if_neg hcounted, if_neg]
    · rfl
    · simpa [Exchange.isCounted, and_assoc, Option.all_eq_true] using hcounted

/-- What is no request adds nothing to a number that does not depend on the readiness. -/
theorem measure_occur [Log.Patterns] {measure : Metrics → Nat}
    (hready : ∀ metrics n, measure (Metrics.set .ready n metrics) = measure metrics)
    (h : o.request? = none) :
    measure (g.occur o).1.context.metrics = measure g.context.metrics := by
  cases o with
  | request => cases h
  | file e =>
    obtain ⟨c, watch, hnotice, hlasting⟩ := exists_notice_eq e g
    have hmetrics : c.metrics = g.context.metrics := by
      have hsame := congrArg Context.metrics hlasting
      exact hsame
    have hoccur : (g.occur (.file e)).1.context = c := congrArg Gateway.context hnotice
    rw [hoccur, hmetrics]
  | ready value =>
    have hset : measure (g.context.setReadiness value).metrics = measure g.context.metrics := by
      rw [Context.setReadiness]
      rcases g.context.readiness.set value with ⟨readiness, notice⟩
      cases notice with
      | none => rfl
      | some n =>
        cases n with
        | ignored => rfl
        | becameReady | becameDraining => exact hready _ _
    exact hset
  | traffic => rfl

/-- **What a run adds to a number that is read off the metrics**, if a counted request adds one
depending on its labels. -/
theorem measure_serveAll [Log.Patterns] (measure : Metrics → Nat)
    (adds : String → String → Nat → Bool)
    (hadd : ∀ metrics method route status,
      measure (Metrics.addRequest method route status metrics) =
        measure metrics + if adds method route status then 1 else 0)
    (hready : ∀ metrics n, measure (Metrics.set .ready n metrics) = measure metrics) :
    measure (g.serveAll occurrences).1.context.metrics =
      measure g.context.metrics +
        ((g.exchanges occurrences).filter (·.isCounted g.serving)).countP fun x =>
          adds x.request.method (x.route g.serving) x.reply.response.status := by
  induction occurrences generalizing g with
  | nil => rfl
  | cons o rest ih =>
    have hserveAll : (g.serveAll (o :: rest)).1 = ((g.occur o).1.serveAll rest).1 := rfl
    cases hrequest : o.request? with
    | none =>
      rw [exchanges_of_request?_eq_none hrequest, hserveAll, ih, measure_occur hready hrequest,
        serving_occur]
    | some r =>
      cases o with
      | request entrance ids request =>
        have hnext : (g.occur (.request entrance ids request)).1 =
          (g.answer entrance ids request).1 := rfl
        have hserving : (g.answer entrance ids request).1.serving = g.serving := rfl
        rw [exchanges_request, hserveAll, hnext, ih, hserving, metrics_answer]
        split
        · next hcounted =>
          rw [List.filter_cons_of_pos hcounted, List.countP_cons, hadd, Nat.add_right_comm,
            Nat.add_assoc]
        · next hcounted => rw [List.filter_cons_of_neg hcounted]
      | file | ready | traffic => cases hrequest

/-- Nothing is read off metrics that tell of no requests. -/
theorem value_of_uncounted {metrics : Metrics} {m : Metric}
    (h : ∀ entry ∈ metrics, entry.1.isOfRequests = false) (hm : m.isOfRequests = true) :
    (metrics.value? m).getD 0 = 0 := by
  have hnone : metrics.value? m = none := by
    refine Metrics.value?_of_not_mem fun entry hentry hsame => ?_
    rw [← hsame, h entry hentry] at hm
    cases hm
  rw [hnone]
  rfl

theorem sum_of_uncounted {metrics : Metrics} {kind : Metric → Bool}
    (h : ∀ entry ∈ metrics, entry.1.isOfRequests = false)
    (hkind : ∀ m : Metric, m.isOfRequests = false → kind m = false) : metrics.sum kind = 0 :=
  Metrics.sum_of_not_kind fun entry hentry => hkind entry.1 (h entry hentry)

/-- **Requests are counted once.** A process has not counted any request, and then whatever happens
to it happens. The sum of all counters of requests is the number of the requests that came in at the
primary stack and were neither refused for their length nor out of time; whether they were forwarded
makes no difference, and what came in at the secondary stack is not among them. Each counter shows
how many of them have its method, its route and the status that the client got, and the durations
of a method and a route are as many as its counters say for all statuses together. Each single
request adds one to its counter and to the durations, if it is counted, and changes nothing else.
The route of a request that comes from a client, and so shows none yet, is a pattern of the primary
table that the path has the form of, unless there is none. -/
theorem requests_counted_once [Log.Patterns] (g : Gateway M) (occurrences : List Occurrence)
    (hstart : ∀ entry ∈ g.context.metrics, entry.1.isOfRequests = false) :
    let counted := (g.exchanges occurrences).filter (·.isCounted g.serving)
    let metrics := (g.serveAll occurrences).1.context.metrics
    metrics.sum Metric.isRequests = counted.length ∧
    (∀ method route status, (metrics.value? (.requests method route status)).getD 0 =
      counted.countP (·.counter g.serving = .requests method route status)) ∧
    (∀ method route, (metrics.value? (.durations method route)).getD 0 =
      metrics.sum (Metric.isRequestsOf method route)) ∧
    (∀ entrance ids request,
      let next := (g.serveAll occurrences).1.answer entrance ids request
      let x : Exchange := ⟨entrance, request, next.2⟩
      ∀ m, (next.1.context.metrics.value? m).getD 0 = (metrics.value? m).getD 0 +
        if x.isCounted g.serving ∧
            (x.counter g.serving = m ∨ .durations request.method (x.route g.serving) = m) then 1
        else 0) ∧
    ∀ x : Exchange, x.request.route = none →
      (∃ r ∈ g.serving.front.routes, r.pattern.matchesPath x.request.uri.path = true ∧
        x.route g.serving = String.ofList r.pattern.text) ∨
      ((∀ r ∈ g.serving.front.routes, r.pattern.matchesPath x.request.uri.path = false) ∧
        x.route g.serving = "<unmatched>") := by
  intro counted metrics
  refine ⟨?_, fun method route status => ?_, fun method route => ?_,
    fun entrance ids request => ?_, fun x hroute => ?_⟩
  · have hrun : metrics.sum Metric.isRequests = _ :=
      measure_serveAll (Metrics.sum Metric.isRequests) (fun _ _ _ => true)
        (fun _ _ _ _ => by simp [Metrics.sum_addRequest, Metric.isRequests])
        (fun _ _ => Metrics.sum_set_ready rfl)
    have hzero : g.context.metrics.sum Metric.isRequests = 0 :=
      sum_of_uncounted hstart fun _ => Metric.isRequests_of_not_isOfRequests
    rw [hrun, hzero, Nat.zero_add, List.countP_true]
  · have hrun : (metrics.value? (.requests method route status)).getD 0 = _ :=
      measure_serveAll (fun metrics =>
          (metrics.value? (.requests method route status)).getD 0)
        (fun m r s => Metric.requests m r s = .requests method route status)
        (fun _ _ _ _ => by simp [Metrics.value_addRequest])
        (fun _ _ => Metrics.value_set_ready (by simp))
    rw [value_of_uncounted hstart rfl, Nat.zero_add] at hrun
    exact hrun
  · have hvalue : (metrics.value? (.durations method route)).getD 0 = _ :=
      measure_serveAll (fun metrics =>
          (metrics.value? (.durations method route)).getD 0)
        (fun m r _ => m = method && r = route)
        (fun _ _ _ _ => by simp [Metrics.value_addRequest])
        (fun _ _ => Metrics.value_set_ready (by simp))
    have hsum : metrics.sum (Metric.isRequestsOf method route) = _ :=
      measure_serveAll (Metrics.sum (Metric.isRequestsOf method route))
        (fun m r _ => m = method && r = route)
        (fun _ _ _ _ => by simp [Metrics.sum_addRequest, Metric.isRequestsOf])
        (fun _ _ => Metrics.sum_set_ready rfl)
    have hzero : g.context.metrics.sum (Metric.isRequestsOf method route) = 0 :=
      sum_of_uncounted hstart fun _ => Metric.isRequestsOf_of_not_isOfRequests
    rw [hvalue, hsum, hzero, value_of_uncounted hstart rfl]
  · intro next x m
    have hmetrics : next.1.context.metrics =
        if x.isCounted (g.serveAll occurrences).1.serving then
          metrics.addRequest request.method (x.route (g.serveAll occurrences).1.serving)
            x.reply.response.status
        else metrics := metrics_answer
    rw [serving_serveAll] at hmetrics
    rw [hmetrics]
    by_cases hcounted : x.isCounted g.serving = true
    · rw [if_pos hcounted, Metrics.value_addRequest]
      simp only [hcounted, true_and]
      rfl
    · rw [if_neg hcounted, if_neg fun h => hcounted h.1]
      rfl
  · rcases g.serving.label_cases hroute with ⟨r, hr, hmatches, hlabel⟩ | ⟨hnomatch, hlabel⟩
    · exact .inl ⟨r, hr, hmatches, congrArg String.ofList hlabel⟩
    · exact .inr ⟨hnomatch, congrArg String.ofList hlabel⟩

/-- A request without a body, which may announce one. -/
def bodiless (method path : String) (announced : Option String) : Request :=
  { method, uri := ⟨none, none, ⟨path.toList, none⟩⟩
    headers := announced.toList.map fun length => ("content-length", bytesOf length) }

/-- A request for the system module, one that is forwarded, one without a route, one that announces
too long a body, and one that comes in at the secondary stack. -/
def mixedRequests : List Occurrence :=
  let ids : FreshIds := ⟨[], []⟩
  [.request .primary ids (bodiless "GET" "/api/system/info" none),
    .request .primary ids (bodiless "GET" "/grpc/missing" none),
    .request .primary ids (bodiless "GET" "/missing" (some "0")),
    .request .primary ids (bodiless "GET" "/missing" (some "2097153")),
    .request .secondary ids (bodiless "GET" "/v1/system/info" none)]

set_option maxRecDepth 20000 in
/-- Of five requests three are counted, under three routes. -/
theorem requests_counted_once_mixed :
    ∃ g, ({ modules := BuiltInModule.registered } : Context BuiltInModule).launch.2 = .ok g ∧
      (∀ entry ∈ g.context.metrics, entry.1.isOfRequests = false) ∧
      let metrics := (g.serveAll mixedRequests).1.context.metrics
      metrics.sum Metric.isRequests = 3 ∧
      (metrics.value? (.requests "GET" "/grpc/{*rest}" 404)).getD 0 = 1 ∧
      (metrics.value? (.durations "GET" "<unmatched>")).getD 0 =
        metrics.sum (Metric.isRequestsOf "GET" "<unmatched>") := by
  obtain ⟨g, hg, hstart, hlength, hforwarded⟩ :
      ∃ g, ({ modules := BuiltInModule.registered } : Context BuiltInModule).launch.2 = .ok g ∧
        (∀ entry ∈ g.context.metrics, entry.1.isOfRequests = false) ∧
        ((g.exchanges mixedRequests).filter (·.isCounted g.serving)).length = 3 ∧
        ((g.exchanges mixedRequests).filter (·.isCounted g.serving)).countP
          (·.counter g.serving = .requests "GET" "/grpc/{*rest}" 404) = 1 :=
    ⟨_, rfl, by decide +kernel, by decide +kernel, by decide +kernel⟩
  obtain ⟨hsum, hvalues, hdurations, -⟩ := requests_counted_once g mixedRequests hstart
  exact ⟨g, hg, hstart, hsum.trans hlength, (hvalues _ _ _).trans hforwarded,
    hdurations _ _⟩

end Gateway

end ProtocolGateway

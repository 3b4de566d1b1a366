import ProtocolGateway.Proofs.Http.Forwarding

/-!
# Which requests get through the layers

The layers of the primary stack refuse a request that announces too long a body, and answer for one
that there is no time for. All other requests get to the endpoint that the table chooses, with a cap
on their body. What it answers in time is answered by the stack, and what is observed there at once
is observed of the whole stack.

## Main definitions

* `Stacks.Admits`: the requests that get through.
* `Request.admitted`: a request as it gets to an endpoint.
* `Stacks.HandsOver`: the secondary stack answers a request.

## Main results

* `Stacks.response_primary`, `Stacks.mem_events_primary`: what comes of a request that is let
  through.
* `Stacks.status_primaryWith_of_not_admits`: what comes of one that is not.
* `Stacks.handsOver_of_forwards`: which requests are handed over.
-/

namespace ProtocolGateway

namespace Layer

variable {fresh id : Bytes} {limit : Nat} {inner : Service} {r : Request}

theorem response_timed : (timed limit inner r).response = (inner r).within limit := by
  by_cases hlt : (inner r).delay < limit
  · rw [timed, if_pos hlt, Reply.within, if_pos hlt]
  · rw [timed, if_neg hlt, Reply.within, if_neg hlt]

theorem response_returningId (hid : r.headers.first? requestIdHeader = some id) :
    (returningId inner r).response = (inner r).response.identified id := by
  rw [returningId, hid]
  rfl

/-- What the layers around the routes of both stacks answer. -/
theorem response_around :
    (around fresh limit inner r).response =
      ((inner (r.identified fresh)).within limit).identified
        ((r.headers.first? requestIdHeader).getD fresh) := by
  have hreturned : (around fresh limit inner r).response =
      (returningId (timed limit inner) (r.identified fresh)).response := rfl
  rw [hreturned, response_returningId Request.first?_identified, response_timed]

/-- The layers around the routes do not look behind them but for the request. -/
theorem around_congr {other : Service}
    (h : inner (r.identified fresh) = other (r.identified fresh)) :
    around fresh limit inner r = around fresh limit other r := by
  have hsame : inner { r with headers := r.headers.addMissing requestIdHeader fresh } =
      other { r with headers := r.headers.addMissing requestIdHeader fresh } := h
  simp only [around, identified, traced, returningId, timed, hsame]

theorem events_returningId : (returningId inner r).events = (inner r).events := by
  rw [returningId]
  cases r.headers.first? requestIdHeader <;> rfl

/-- A span is opened before all that is observed within the limit. -/
theorem events_around : (around fresh limit inner r).events =
    (0, (r.identified fresh).span) :: (timed limit inner (r.identified fresh)).events := by
  have hreturned : (around fresh limit inner r).events =
      (0, (r.identified fresh).span) ::
        (returningId (timed limit inner) (r.identified fresh)).events := rfl
  rw [hreturned, events_returningId]

/-- What is observed before the limit is observed of the stack. -/
theorem mem_events_around {e : Nat × RequestEvent} (he : e ∈ (inner (r.identified fresh)).events)
    (htime : e.1 < limit) : e ∈ (around fresh limit inner r).events := by
  rw [events_around, timed]
  refine List.mem_cons_of_mem _ ?_
  split
  · exact he
  · exact List.mem_filter.2 ⟨he, by simpa using htime⟩

end Layer

namespace Stacks

variable {g : Stacks} {live : Live} {ids : FreshIds} {request : Request}

/-- The layers of the primary stack let the request through: there is time, and no body is announced
that is too long. -/
structure Admits (g : Stacks) (request : Request) : Prop where
  time : 0 < g.requestMs
  length : ∀ n, request.headers.announcedLength? = some n → n ≤ g.maxBodyBytes

/-- The reply to a request that announces too long a body. -/
def refusal : Reply := { response := .text 413 (bytesOf "length limit exceeded") }

/-- What an endpoint of the primary table does. -/
def endpointService (g : Stacks) (live : Live) (ids : FreshIds) : Endpoint → Service
  | .handler h => h.service live
  | .forward => dispatch g.reserved (g.secondary live ids)

end Stacks

/-- How much of the body of a request that is let through may be read. -/
def Request.bodyCap (maxBodyBytes : Nat) (r : Request) : Nat :=
  r.headers.announcedLength?.getD maxBodyBytes

/-- A request as it gets to an endpoint of the primary table: with an identity, and with a cap on
its body. -/
def Request.admitted (fresh : Bytes) (maxBodyBytes : Nat) (r : Request) : Request :=
  (r.identified fresh).capped (r.bodyCap maxBodyBytes)

namespace Stacks

/-- The primary stack hands the request over: it answers what the secondary one answers in time to
what is left of the request, and shows all that is to be seen of that. -/
def HandsOver (g : Stacks) (request : Request) : Prop :=
  ∃ uri, request.uri.below? g.reserved = some uri ∧ ∀ (live : Live) (ids : FreshIds),
    let sent := (g.handed uri ids.primary request).capped (request.bodyCap g.maxBodyBytes)
    let answer := g.secondary live ids sent
    (g.primary live ids request).response =
      ((answer.within g.requestMs).identified
        ((request.headers.first? requestIdHeader).getD ids.primary)).fitMethod
          request.method none ∧
    ∀ e ∈ answer.events, e ∈ (g.primary live ids request).events

variable {g : Stacks} {live : Live} {ids : FreshIds} {request : Request}

/-- A request that is let through gets to the service behind the layers. -/
theorem sized_eq (h : g.Admits request) (fresh : Bytes) (inner : Service) :
    Layer.sized g.maxBodyBytes inner (request.identified fresh) =
      inner (request.admitted fresh g.maxBodyBytes) := by
  have hannounced : (request.identified fresh).headers.announcedLength? =
      request.headers.announcedLength? := Headers.announcedLength?_addMissing (by decide)
  rw [Layer.sized, hannounced, Request.admitted, Request.bodyCap]
  cases hlength : request.headers.announcedLength? with
  | none => rfl
  | some n => exact if_neg (Nat.not_lt.2 (h.length n hlength))

/-- **A request that is not let through is refused**, whatever is behind the layers: it is answered
as if the refusal were there. -/
theorem around_sized_of_not_admits (h : ¬g.Admits request) (fresh : Bytes) (inner : Service) :
    Layer.around fresh g.requestMs (Layer.sized g.maxBodyBytes inner) request =
      Layer.around fresh g.requestMs (fun _ => refusal) request := by
  by_cases htime : 0 < g.requestMs
  · obtain ⟨n, hannounced, hlong⟩ :
        ∃ n, request.headers.announcedLength? = some n ∧ g.maxBodyBytes < n := by
      by_contra hshort
      exact h ⟨htime, fun n hn => Nat.le_of_not_lt fun hlong => hshort ⟨n, hn, hlong⟩⟩
    have hidentified : (request.identified fresh).headers.announcedLength? = some n :=
      (Headers.announcedLength?_addMissing (by decide)).trans hannounced
    have hsized : Layer.sized g.maxBodyBytes inner (request.identified fresh) = refusal := by
      simp only [Layer.sized, hidentified]
      exact if_pos hlong
    exact Layer.around_congr hsized
  · have hnone (inner : Service) : Layer.timed g.requestMs inner =
        fun _ => { response := .empty 408 } := by
      funext r
      simp [Layer.timed, Nat.eq_zero_of_not_pos htime]
    rw [Layer.around, Layer.around, hnone, hnone]

/-! ### The endpoints of the primary table -/

section endpoint

variable {route : Option (List Char)} {endpoint : Endpoint}

theorem admits_enter : g.Admits (request.enter route) ↔ g.Admits request := by
  constructor
  · exact fun h => ⟨h.time, by simpa [Request.headers_enter] using h.length⟩
  · exact fun h => ⟨h.time, by simpa [Request.headers_enter] using h.length⟩

/-- What the primary stack replies if its table chooses an endpoint. -/
theorem primary_of_choose
    (h : g.front.choose request.method request.uri.path = (route, .endpoint endpoint)) :
    let reply := Layer.around ids.primary g.requestMs (Layer.sized g.maxBodyBytes
      (Layer.counted (g.endpointService live ids endpoint))) (request.enter route)
    g.primary live ids request =
      { reply with response := reply.response.fitMethod request.method none } := by
  rw [primary, primaryWith, Table.serve, h]
  cases endpoint <;> rfl

/-- **What the primary stack answers** to a request that is let through is what its endpoint
answers in time. -/
theorem response_primary
    (h : g.front.choose request.method request.uri.path = (route, .endpoint endpoint))
    (hadmits : g.Admits request) :
    (g.primary live ids request).response =
      (((g.endpointService live ids endpoint
          ((request.enter route).admitted ids.primary g.maxBodyBytes)).within
            g.requestMs).identified
        ((request.headers.first? requestIdHeader).getD ids.primary)).fitMethod
          request.method none := by
  rw [primary_of_choose h]
  simp only [Layer.response_around, sized_eq (admits_enter.2 hadmits), Request.headers_enter]
  rfl

/-- **What is observed of its endpoint in time** is observed of the primary stack. -/
theorem mem_events_primary
    (h : g.front.choose request.method request.uri.path = (route, .endpoint endpoint))
    (hadmits : g.Admits request) {e : Nat × RequestEvent}
    (he : e ∈ (g.endpointService live ids endpoint
      ((request.enter route).admitted ids.primary g.maxBodyBytes)).events)
    (htime : e.1 < g.requestMs) : e ∈ (g.primary live ids request).events := by
  rw [primary_of_choose h]
  refine Layer.mem_events_around ?_ htime
  rw [sized_eq (admits_enter.2 hadmits)]
  exact List.mem_append_left _ he

/-- What the primary stack replies to a request that is not let through does not depend on what its
endpoints do. -/
theorem primaryWith_of_not_admits {choice : Table.Choice Endpoint}
    (h : g.front.choose request.method request.uri.path = (route, choice))
    (hrefused : ¬g.Admits request) (forwarding : Service) :
    let reply := Layer.around ids.primary g.requestMs (fun _ => refusal) (request.enter route)
    g.primaryWith forwarding live ids request =
      { reply with response := reply.response.fitMethod request.method choice.allow? } := by
  have hlayers (inner : Service) : g.frontLayers ids.primary inner (request.enter route) =
      Layer.around ids.primary g.requestMs (fun _ => refusal) (request.enter route) :=
    around_sized_of_not_admits (fun hadmits => hrefused (admits_enter.1 hadmits)) _ _
  rw [primaryWith, Table.serve, h]
  simp only [hlayers]

/-- **A request that is not let through is refused**: for its length, or for its time if there is
none. -/
theorem status_primaryWith_of_not_admits (hrefused : ¬g.Admits request) (forwarding : Service) :
    (g.primaryWith forwarding live ids request).response.status =
      if 0 < g.requestMs then 413 else 408 := by
  rcases hchoose : g.front.choose request.method request.uri.path with ⟨route, choice⟩
  rw [primaryWith_of_not_admits hchoose hrefused]
  simp only [Response.status_fitMethod, Layer.response_around]
  rw [Reply.within, show refusal.delay = 0 from rfl]
  by_cases htime : 0 < g.requestMs
  · rw [if_pos htime, if_pos htime]
    rfl
  · rw [if_neg htime, if_neg htime]
    rfl

/-- **A request that is forwarded and let through is handed over.** -/
theorem handsOver_of_forwards (hforwards : g.Forwards request) (hadmits : g.Admits request)
    {uri : Uri} (huri : request.uri.below? g.reserved = some uri) : g.HandsOver request := by
  refine ⟨uri, huri, fun live ids => ?_⟩
  intro sent answer
  rcases hchoose : g.front.choose request.method request.uri.path with ⟨route, choice⟩
  obtain rfl : choice = .endpoint .forward := by rwa [Forwards, hchoose] at hforwards
  have hdispatch : g.endpointService live ids .forward
      ((request.enter route).admitted ids.primary g.maxBodyBytes) = answer := by
    have hbelow : ((request.enter route).admitted ids.primary g.maxBodyBytes).uri.below?
        g.reserved = some uri := by
      cases route <;> exact huri
    refine (dispatch_of_below? hbelow _).trans ?_
    rw [show answer = g.secondary live ids ((g.handed uri ids.primary request).capped
      (request.bodyCap g.maxBodyBytes)) from rfl, handed, hchoose]
    rfl
  refine ⟨?_, fun e he => mem_events_primary hchoose hadmits (hdispatch ▸ he) ?_⟩
  · rw [response_primary hchoose hadmits, hdispatch]
  · have hid : (g.handed uri ids.primary request).headers.first? requestIdHeader =
        some ((request.headers.first? requestIdHeader).getD ids.primary) :=
      Request.first?_forwarded
    rw [time_of_mem_events (r := sent) hadmits.time hid he]
    exact hadmits.time

end endpoint

end Stacks

end ProtocolGateway

import ProtocolGateway.Proofs.Http.Fitting
import ProtocolGateway.Proofs.Http.Reserved

/-!
# Forwarding is transparent

A request that the primary stack forwards crosses the layers of both stacks: it is given an identity
twice, timed twice and shown in two spans, and its body is capped once. Nothing of that is to be
seen by the handlers of the secondary stack: they get what they would get if the request had been
sent to the secondary stack directly, with the URI that is left of it and the identity that it has
by then.

What is done twice is harmless for one of two reasons. Doing it again changes nothing, as for the
identity; or it is decided the same way both times, as for the time limit. The last holds since a
choice that could change its response afterwards, by an allow header, is never late.

Two things are left over from the primary table. A handler also gets what the pattern of the primary
table has captured, and the URI with which the request came there: if it looks at those, it answers
otherwise than directly. And the response is fitted to the method once more, which shows on a
response to HEAD whose body was of unknown length.

## Main definitions

* `Request.forwarded`: the request as the secondary stack would be sent it directly.
* `Layer.around`: what both stacks put around their routes.
* `Table.Choice.calls`: what is observed of the handler of a choice.

## Main results

* `Stacks.secondary_eq`: the reply of the secondary stack to a request with an identity.
* `Stacks.primary_eq`: the reply of the primary stack to a request that it forwards.
* `Stacks.forwarding_transparent`: the first reply, seen through the second.
* `Stacks.forwarding_shows`: what is not transparent.
-/

namespace ProtocolGateway

/-! ### The layers around the routes of both stacks -/

namespace Request

variable {r : Request}

/-- The request with an identity. -/
def identified (fresh : Bytes) (r : Request) : Request :=
  { r with headers := r.headers.addMissing requestIdHeader fresh }

/-- The request with a lower cap on its body. -/
def capped (n : Nat) (r : Request) : Request := { r with body := r.body.limit n }

/-- The request as it would be sent to the secondary stack directly: with what is left of its URI,
and with the identity that it has by then. -/
def forwarded (uri : Uri) (fresh : Bytes) (r : Request) : Request :=
  { r.identified fresh with uri, route := none }

/-- The span that is opened around a request. -/
def span (r : Request) : RequestEvent :=
  .span r.method r.routeLabel (r.shownId?.getD ['-'])

/-- The identity that a request has after it was given one. -/
theorem first?_identified {fresh : Bytes} :
    (r.identified fresh).headers.first? requestIdHeader =
      some ((r.headers.first? requestIdHeader).getD fresh) :=
  Headers.first?_addMissing

theorem first?_forwarded {uri : Uri} {fresh : Bytes} :
    (r.forwarded uri fresh).headers.first? requestIdHeader =
      some ((r.headers.first? requestIdHeader).getD fresh) :=
  first?_identified

theorem identified_of_first? {id : Bytes} (h : r.headers.first? requestIdHeader = some id)
    (fresh : Bytes) : r.identified fresh = r := by
  rw [identified, Headers.addMissing_of_first? h]

/-- What a handler gets does not show a cap that the body keeps within. -/
theorem toCall_capped {n : Nat} (h : r.body.bytes.length ≤ n) : (r.capped n).toCall = r.toCall := by
  simp only [toCall, capped, Body.read?_limit_of_le h, Body.whole?_limit_of_le h]

theorem capped_enter {n : Nat} {route : Option (List Char)} :
    (r.capped n).enter route = (r.enter route).capped n := by
  cases route <;> rfl

theorem body_enter {route : Option (List Char)} : (r.enter route).body = r.body := by
  cases route <;> rfl

theorem headers_enter {route : Option (List Char)} : (r.enter route).headers = r.headers := by
  cases route <;> rfl

end Request

/-- The response with an identity. -/
def Response.identified (id : Bytes) (r : Response) : Response :=
  { r with headers := r.headers.addMissing requestIdHeader id }

/-- What is answered within a limit. -/
def Reply.within (limit : Nat) (reply : Reply) : Response :=
  if reply.delay < limit then reply.response else .empty 408

/-- The answer to a request for which the time is up. -/
theorem Response.fitMethod_timeUp {id : Bytes} {method : String} :
    ((Response.empty 408).identified id).fitMethod method none =
      { status := 408
        headers := [(requestIdHeader, id), ("content-length", bytesOf "0")] } := by
  have hopens : ¬((Response.empty 408).identified id).opensTunnel method = true := by
    simp [opensTunnel, identified, empty, isSuccess]
  have hheaders : ((Response.empty 408).identified id).fittedHeaders none =
      [(requestIdHeader, id), ("content-length", bytesOf "0")] :=
    fittedHeaders_withoutBody (r := (Response.empty 408).identified id)
  rw [fitMethod_of_not_opensTunnel hopens, hheaders]
  split <;> rfl

theorem Response.showingLength_timeUp {id : Bytes} {method : String} :
    showingLength method
        { status := 408, headers := [(requestIdHeader, id), ("content-length", bytesOf "0")] } =
      { status := 408, headers := [(requestIdHeader, id), ("content-length", bytesOf "0")] } := by
  rw [showingLength]
  split <;> rfl

/-- A reply that was cut short, fitted to the method and given an identity stays the same when that
is done to it again, if only a reply in time asks for the allow header, except that the length of a
body that has been taken away is shown. -/
theorem Reply.within_again {limit : Nat} {id : Bytes} {reply : Reply} {once : Response}
    {method : String} {allow : Option String} (hallow : ¬reply.delay < limit → allow = none)
    (honce : once = ((reply.within limit).identified id).fitMethod method allow)
    (events : List (Nat × RequestEvent)) :
    (((⟨min reply.delay limit, once, events⟩ : Reply).within limit).identified id).fitMethod method
      none = once.showingLength method := by
  by_cases hlt : reply.delay < limit
  · have hid : once.headers.first? requestIdHeader =
        some ((reply.response.headers.first? requestIdHeader).getD id) := by
      rw [honce, within, if_pos hlt, Response.first?_fitMethod_of_ne (by decide) (by decide)]
      exact Headers.first?_addMissing
    have hsame : once.identified id = once := by
      rw [Response.identified, Headers.addMissing_of_first? hid]
    rw [within, if_pos (by rwa [Nat.min_eq_left hlt.le]), hsame, honce,
      Response.fitMethod_fitMethod]
  · have hshown : once.showingLength method = once := by
      rw [honce, within, if_neg hlt, hallow hlt, Response.fitMethod_timeUp,
        Response.showingLength_timeUp]
    rw [hshown, honce, within, within, if_neg hlt, hallow hlt,
      if_neg (by rw [Nat.min_eq_right (Nat.le_of_not_lt hlt)]; exact Nat.lt_irrefl _)]

/-- What is observed before a limit is not cut off by it. -/
theorem filter_before {limit : Nat} {events : List (Nat × RequestEvent)}
    (h : ∀ e ∈ events, e.1 < limit) : events.filter (·.1 < limit) = events := by
  rw [List.filter_eq_self]
  intro e he
  exact decide_eq_true (h e he)

/-- The length that the response of a reply shows. -/
def Reply.shownLength? (reply : Reply) : Option Bytes :=
  reply.response.headers.first? "content-length"

namespace Layer

variable {limit : Nat} {inner : Service} {r : Request} {id fresh : Bytes}

/-- What is put around the routes of both stacks. -/
def around (fresh : Bytes) (limit : Nat) (inner : Service) : Service :=
  identified fresh (traced (returningId (timed limit inner)))

theorem around_identified :
    around fresh limit inner (r.identified fresh) = around fresh limit inner r := by
  have hsame : (r.identified fresh).identified fresh = r.identified fresh :=
    Request.identified_of_first? Request.first?_identified fresh
  exact congrArg (traced (returningId (timed limit inner))) hsame

/-- The reply to a request with an identity, if the service observes nothing after its answer. -/
theorem around_eq (hid : r.headers.first? requestIdHeader = some id)
    (htimely : ∀ e ∈ (inner r).events, e.1 ≤ (inner r).delay) :
    around fresh limit inner r =
      { delay := min (inner r).delay limit
        response := ((inner r).within limit).identified id
        events := (0, r.span) :: (inner r).events.filter (·.1 < limit) } := by
  have hsame : around fresh limit inner r = traced (returningId (timed limit inner)) r :=
    congrArg (traced (returningId (timed limit inner))) (Request.identified_of_first? hid fresh)
  rw [hsame]
  by_cases hlt : (inner r).delay < limit
  · have hall : (inner r).events.filter (·.1 < limit) = (inner r).events :=
      filter_before fun e he => (htimely e he).trans_lt hlt
    simp only [traced, returningId, timed, hid, Reply.within, if_pos hlt, hall,
      Nat.min_eq_left hlt.le]
    rfl
  · simp only [traced, returningId, timed, hid, Reply.within, if_neg hlt,
      Nat.min_eq_right (Nat.le_of_not_lt hlt)]
    rfl

/-- The service behind the limit for bodies gets a body that keeps within it, with a cap that is not
noticed. -/
theorem exists_sized_eq (hbody : r.body.bytes.length ≤ limit)
    (hlength : ∀ n, r.headers.announcedLength? = some n →
      r.body.bytes.length ≤ n ∧ n ≤ limit) :
    ∃ n, r.body.bytes.length ≤ n ∧ ∀ inner, sized limit inner r = inner (r.capped n) := by
  cases hannounced : r.headers.announcedLength? with
  | none =>
    refine ⟨limit, hbody, fun inner => ?_⟩
    simp only [sized, hannounced]
    rfl
  | some n =>
    obtain ⟨hle, hmax⟩ := hlength n hannounced
    refine ⟨n, hle, fun inner => ?_⟩
    simp only [sized, hannounced]
    exact if_neg (Nat.not_lt.2 hmax)

/-- If nothing is observed after the response, nothing is when the request is counted as well. -/
theorem le_delay_of_mem_counted {reply : Reply} (h : ∀ e ∈ reply.events, e.1 ≤ reply.delay) :
    ∀ e ∈ (counted (fun _ => reply) r).events, e.1 ≤ (counted (fun _ => reply) r).delay := by
  intro e he
  rcases List.mem_append.1 he with he | he
  · exact h e he
  · rw [List.mem_singleton.1 he]
    exact le_rfl

end Layer

/-! ### What a table chooses -/

namespace Table.Choice

variable {choice : Choice Handler} {live : Live} {r : Request}

/-- What is observed of the handler of a choice, if it has one. -/
def calls (r : Request) : Choice Handler → List (Nat × RequestEvent)
  | .endpoint _ => [(0, .handled r.toCall)]
  | _ => []

/-- The service of a choice of handlers. -/
def answer (live : Live) (choice : Choice Handler) : Service := choice.service (·.service live)

theorem events_answer : (choice.answer live r).events = choice.calls r := by
  cases choice <;> rfl

/-- A handler is called at once. -/
theorem time_of_mem_calls {e : Nat × RequestEvent} (he : e ∈ choice.calls r) : e.1 = 0 := by
  cases choice with
  | endpoint h => rw [List.mem_singleton.1 he]
  | wrongMethod => exact absurd he List.not_mem_nil
  | notFound => exact absurd he List.not_mem_nil

/-- A choice that is late does not ask for the allow header: it has an endpoint. -/
theorem allow?_of_late {limit : Nat} (hlimit : 0 < limit)
    (hlate : ¬(choice.answer live r).delay < limit) : choice.allow? = none := by
  cases choice with
  | wrongMethod => exact absurd hlimit hlate
  | endpoint => rfl
  | notFound => rfl

theorem answer_capped {n : Nat} (h : r.body.bytes.length ≤ n) :
    choice.answer live (r.capped n) = choice.answer live r := by
  cases choice with
  | endpoint handler =>
    simp only [answer, service, Handler.service, Request.toCall_capped h]
  | wrongMethod => rfl
  | notFound => rfl

theorem calls_capped {n : Nat} (h : r.body.bytes.length ≤ n) :
    choice.calls (r.capped n) = choice.calls r := by
  cases choice with
  | endpoint => simp only [calls, Request.toCall_capped h]
  | wrongMethod => rfl
  | notFound => rfl

end Table.Choice

/-! ### The stacks -/

namespace Stacks

variable {g : Stacks} {live : Live} {ids : FreshIds} {r : Request} {id : Bytes}

/-- **The reply of the secondary stack** to a request with an identity: the request is shown with
the pattern that the table finds for it, and nothing is observed but a span and the call of a
handler. -/
theorem secondary_eq (hms : 0 < g.requestMs) (hid : r.headers.first? requestIdHeader = some id)
    {route : Option (List Char)} {choice : Table.Choice Handler}
    (hchoose : g.back.choose r.method r.uri.path = (route, choice)) :
    g.secondary live ids r =
      { delay := min (choice.answer live (r.enter route)).delay g.requestMs
        response := (((choice.answer live (r.enter route)).within g.requestMs).identified
          id).fitMethod r.method choice.allow?
        events := (0, (r.enter route).span) :: choice.calls (r.enter route) } := by
  have hid : (r.enter route).headers.first? requestIdHeader = some id := by
    rw [Request.headers_enter, hid]
  have htimely : ∀ e ∈ (choice.answer live (r.enter route)).events,
      e.1 ≤ (choice.answer live (r.enter route)).delay := by
    intro e he
    rw [Table.Choice.events_answer] at he
    rw [Table.Choice.time_of_mem_calls he]
    exact Nat.zero_le _
  have hall : (choice.calls (r.enter route)).filter (·.1 < g.requestMs) =
      choice.calls (r.enter route) :=
    filter_before fun e he => (Table.Choice.time_of_mem_calls he).trans_lt hms
  have hreply : g.backLayers ids.secondary (choice.answer live) (r.enter route) = _ :=
    Layer.around_eq hid htimely
  rw [Table.Choice.events_answer, hall] at hreply
  rw [secondary, Table.serve, hchoose]
  exact congrArg (fun reply : Reply =>
    { reply with response := reply.response.fitMethod r.method choice.allow? }) hreply

/-- The secondary stack does not notice a cap that the body keeps within. -/
theorem secondary_capped (hms : 0 < g.requestMs) (hid : r.headers.first? requestIdHeader = some id)
    {n : Nat} (hbody : r.body.bytes.length ≤ n) :
    g.secondary live ids (r.capped n) = g.secondary live ids r := by
  cases hchoose : g.back.choose r.method r.uri.path with
  | mk route choice =>
    have hbody : (r.enter route).body.bytes.length ≤ n := by rwa [Request.body_enter]
    rw [secondary_eq hms hid hchoose, secondary_eq (r := r.capped n) hms hid hchoose,
      Request.capped_enter, Table.Choice.answer_capped hbody, Table.Choice.calls_capped hbody]
    rfl

/-- Behind the layers of the primary stack a request is answered as the secondary stack answers it,
and counted when that is done. -/
theorem forwarded_eq (hms : 0 < g.requestMs) {uri : Uri}
    (huri : r.uri.below? g.reserved = some uri) (hbody : r.body.bytes.length ≤ g.maxBodyBytes)
    (hlength : ∀ n, r.headers.announcedLength? = some n →
      r.body.bytes.length ≤ n ∧ n ≤ g.maxBodyBytes) :
    Layer.sized g.maxBodyBytes (Layer.counted (dispatch g.reserved (g.secondary live ids)))
        (r.identified ids.primary) =
      Layer.counted (fun _ => g.secondary live ids (r.forwarded uri ids.primary)) r := by
  have hannounced : (r.identified ids.primary).headers.announcedLength? =
      r.headers.announcedLength? :=
    Headers.announcedLength?_addMissing (by decide)
  obtain ⟨n, hn, hsized⟩ := Layer.exists_sized_eq (r := r.identified ids.primary) hbody
    (by rw [hannounced]; exact hlength)
  have hdispatch :
      dispatch g.reserved (g.secondary live ids) ((r.identified ids.primary).capped n) =
        g.secondary live ids (r.forwarded uri ids.primary) :=
    (dispatch_of_below? (r := (r.identified ids.primary).capped n) huri _).trans
      (secondary_capped (r := r.forwarded uri ids.primary) hms Request.first?_forwarded hn)
  rw [hsized, Layer.counted, hdispatch]
  rfl

/-- Nothing is observed of the secondary stack after the beginning. -/
theorem time_of_mem_events (hms : 0 < g.requestMs)
    (hid : r.headers.first? requestIdHeader = some id) {e : Nat × RequestEvent}
    (he : e ∈ (g.secondary live ids r).events) : e.1 = 0 := by
  cases hchoose : g.back.choose r.method r.uri.path with
  | mk route choice =>
    rw [secondary_eq hms hid hchoose] at he
    rcases List.mem_cons.1 he with rfl | he
    · rfl
    · exact Table.Choice.time_of_mem_calls he

/-- What the secondary stack is handed of a request that is forwarded: it shows what it has come
through in the primary table. -/
def handed (g : Stacks) (uri : Uri) (fresh : Bytes) (r : Request) : Request :=
  (r.enter (g.front.choose r.method r.uri.path).1).forwarded uri fresh

/-- The reply of the primary stack to a request that it forwards, by that of the secondary one. -/
theorem primary_eq (hms : 0 < g.requestMs) {route : Option (List Char)}
    (hchoose : g.front.choose r.method r.uri.path = (route, .endpoint .forward)) {uri : Uri}
    (huri : r.uri.below? g.reserved = some uri) (hbody : r.body.bytes.length ≤ g.maxBodyBytes)
    (hlength : ∀ n, r.headers.announcedLength? = some n →
      r.body.bytes.length ≤ n ∧ n ≤ g.maxBodyBytes) {answer : Reply}
    (hanswer : g.secondary live ids (g.handed uri ids.primary r) = answer)
    (hid : (r.identified ids.primary).headers.first? requestIdHeader = some id) :
    g.primary live ids r =
      { delay := min answer.delay g.requestMs
        response := ((answer.within g.requestMs).identified id).fitMethod r.method none
        events := (0, ((r.enter route).identified ids.primary).span) ::
          (Layer.counted (fun _ => answer) (r.enter route)).events.filter
            (·.1 < g.requestMs) } := by
  rw [handed, hchoose] at hanswer
  have huri : (r.enter route).uri.below? g.reserved = some uri := by
    cases route <;> exact huri
  have hinner : Layer.sized g.maxBodyBytes
      (Layer.counted (dispatch g.reserved (g.secondary live ids)))
        ((r.enter route).identified ids.primary) =
          Layer.counted (fun _ => answer) (r.enter route) := by
    rw [forwarded_eq hms huri (by rwa [Request.body_enter])
      (by rwa [Request.body_enter, Request.headers_enter]), hanswer]
  have hanswered : ∀ e ∈ answer.events, e.1 ≤ answer.delay := by
    intro e he
    rw [← hanswer] at he
    rw [time_of_mem_events hms Request.first?_forwarded he]
    exact Nat.zero_le _
  have htimely := Layer.le_delay_of_mem_counted (r := r.enter route) hanswered
  rw [← hinner] at htimely
  have hreply : g.frontLayers ids.primary (dispatch g.reserved (g.secondary live ids))
      (r.enter route) = _ :=
    Layer.around_identified.symm.trans
      (Layer.around_eq (by cases route <;> exact hid) htimely)
  rw [hinner] at hreply
  rw [primary, primaryWith, Table.serve, hchoose]
  exact congrArg (fun reply : Reply =>
    { reply with response := reply.response.fitMethod r.method none }) hreply

/-- What a handler of the secondary table gets of a request: nothing of the route through which it
came there, but what has been captured of it and the URI that it had at first. -/
theorem toCall_enter_forwarded {uri : Uri} {fresh : Bytes} {route : Option (List Char)} :
    ((r.forwarded uri fresh).enter route).toCall =
      { method := r.method, uri, headers := r.headers.addMissing requestIdHeader fresh,
        content := r.body.read?, whole := r.body.whole?, route,
        captures := r.captures ++ .ofRoute route uri.path,
        original := r.original.getD uri, peer := r.peer } := by
  cases route <;> rfl

theorem span_enter_forwarded {uri : Uri} {fresh : Bytes} {route : Option (List Char)} :
    ((r.forwarded uri fresh).enter route).span =
      .span r.method (route.getD "<unmatched>".toList)
        ((r.identified fresh).shownId?.getD ['-']) := by
  cases route <;> rfl

/-- What a choice makes of a request depends on the call of the handler only. -/
theorem answer_congr {choice : Table.Choice Handler} {r r' : Request}
    (h : ∀ handler, choice = .endpoint handler →
      handler live r.toCall = handler live r'.toCall) :
    (choice.answer live r).delay = (choice.answer live r').delay ∧
      (choice.answer live r).response = (choice.answer live r').response := by
  cases choice with
  | endpoint handler =>
    have hsame := h handler rfl
    exact ⟨congrArg Answer.delay hsame, congrArg Answer.response hsame⟩
  | wrongMethod => exact ⟨rfl, rfl⟩
  | notFound => exact ⟨rfl, rfl⟩

/-- **Forwarding is transparent**, if there is any time for requests. Take a request that is
forwarded, with a body that keeps within the limit and within the length that is announced for it.
It is handed to the secondary stack, which answers it as the same request with what is left of its
URI and the same identity: the secondary table makes the same choice for both, the pattern that it
finds is all that the span and the handler see of routes, and the two calls of the handler differ in
nothing but what was captured before and in the URI that the request had at first. So the answers
are the same if the handler makes no difference between the two calls.

The primary stack passes this answer on, except that an answer to HEAD shows length zero if no
length was shown. Around what the secondary stack shows, it shows a single span, and it counts the
request if it is answered in time. -/
theorem forwarding_transparent {s : Settings} {http gateway : Table Handler} {request : Request}
    (h : build? s http gateway = some g) (htime : 0 < s.timeouts.requestMs)
    (hforwards : g.Forwards request) {uri : Uri}
    (huri : request.uri.below? s.gateway.trimmedPrefix = some uri)
    (hbody : request.body.bytes.length ≤ s.limits.maxBodyBytes)
    (hlength : ∀ n, request.headers.announcedLength? = some n →
      request.body.bytes.length ≤ n ∧ n ≤ s.limits.maxBodyBytes) (live : Live) (ids : FreshIds) :
    let entered := request.enter (g.front.choose request.method request.uri.path).1
    let handed := g.handed uri ids.primary request
    let direct := request.forwarded uri ids.primary
    let answer := g.secondary live ids handed
    let reply := g.primary live ids request
    let id := (request.headers.first? requestIdHeader).getD ids.primary
    let shown := direct.shownId?.getD ['-']
    (∃ route choice, gateway.choose request.method uri.path = (route, choice) ∧
      let call (captures : Captures) (original : Uri) : Call :=
        { method := request.method, uri
          headers := request.headers.addMissing requestIdHeader ids.primary
          content := request.body.read?, whole := request.body.whole?, route
          captures := captures ++ .ofRoute route uri.path, original, peer := request.peer }
      let own (r : Request) : Reply := choice.answer live (r.enter route)
      let fitted (r : Request) : Reply :=
        { delay := min (own r).delay g.requestMs
          response := (((own r).within g.requestMs).identified id).fitMethod request.method
            choice.allow?
          events := (0, .span request.method (route.getD "<unmatched>".toList) shown) ::
            choice.calls (r.enter route) }
      (handed.enter route).toCall = call entered.captures (request.original.getD request.uri) ∧
      (direct.enter route).toCall = call request.captures (request.original.getD uri) ∧
      answer = fitted handed ∧ g.secondary live ids direct = fitted direct ∧
      ((∀ handler, choice = .endpoint handler →
          handler live (handed.enter route).toCall = handler live (direct.enter route).toCall) →
        answer.response = (g.secondary live ids direct).response ∧
          answer.delay = (g.secondary live ids direct).delay)) ∧
    (reply.response = answer.response.showingLength request.method ∧
      reply.delay = answer.delay) ∧
    reply.events = (0, .span request.method entered.routeLabel shown) :: (answer.events ++
      if answer.delay < g.requestMs then
        [(answer.delay, .counted request.method entered.routeLabel answer.response.status)]
      else []) := by
  intro entered handed direct answer reply id shown
  obtain ⟨-, -, -, rfl, hreserved, hrequestMs, hmaxBodyBytes⟩ := build?_eq_some h
  have hms : 0 < g.requestMs := by
    rwa [hrequestMs]
  have hid : (request.identified ids.primary).headers.first? requestIdHeader = some id :=
    Request.first?_identified
  rcases hback : g.back.choose request.method uri.path with ⟨route, choice⟩
  have hanswer : answer = _ := secondary_eq (r := handed) hms hid hback
  have hdirect : g.secondary live ids direct = _ := secondary_eq (r := direct) hms hid hback
  rw [span_enter_forwarded] at hdirect
  rw [show (handed.enter route).span = (((entered.forwarded uri ids.primary).enter route)).span
    from rfl, span_enter_forwarded] at hanswer
  rcases hfront : g.front.choose request.method request.uri.path with ⟨pattern, chosen⟩
  obtain rfl : chosen = .endpoint .forward := by
    rw [Forwards, hfront] at hforwards
    exact hforwards
  have hentered : request.enter pattern = entered := by
    rw [show entered = request.enter (g.front.choose request.method request.uri.path).1 from rfl,
      hfront]
  have hreply : reply = _ := primary_eq hms hfront (by rwa [hreserved])
    (by rwa [hmaxBodyBytes]) (by rwa [hmaxBodyBytes]) (rfl : _ = answer) hid
  have hevents : answer.events.filter (·.1 < g.requestMs) = answer.events := by
    refine filter_before fun e he => ?_
    have hearly : e.1 = 0 := time_of_mem_events (r := handed) hms hid he
    exact hearly.trans_lt hms
  rw [hentered] at hreply
  refine ⟨⟨route, choice, rfl, toCall_enter_forwarded, toCall_enter_forwarded, hanswer, hdirect,
    fun hsame => ?_⟩, ⟨?_, ?_⟩, ?_⟩
  · obtain ⟨hdelay, hresponse⟩ := answer_congr hsame
    rw [hanswer, hdirect]
    simp only [Reply.within, hdelay, hresponse]
    exact ⟨rfl, trivial⟩
  · rw [hreply, hanswer]
    exact Reply.within_again (Table.Choice.allow?_of_late hms) rfl _
  · rw [hreply, hanswer]
    exact Nat.min_eq_left (Nat.min_le_right _ _)
  · rw [hreply]
    have hspan : (entered.identified ids.primary).span =
        .span request.method entered.routeLabel shown := rfl
    have hmethod : entered.method = request.method := rfl
    simp only [Layer.counted, List.filter_append, hevents, hspan, hmethod]
    by_cases hlt : answer.delay < g.requestMs <;> simp [hlt]

/-- A request with a method that its route has no endpoint for is refused with the same response on
both ways, and the route of the secondary table is what the span shows. -/
theorem forwarding_transparent_wrong_method :
    ∃ pattern : Pattern, pattern.text = "/a".toList ∧
    ∃ g, build? { gateway := ⟨"/grpc"⟩ } {}
        { routes := [⟨pattern, .one .get fun _ _ => { response := .empty 200 }⟩] } = some g ∧
      let request : Request :=
        { method := "POST", uri := ⟨none, none, ⟨"/grpc/a".toList, none⟩⟩
          headers := [("content-length", bytesOf "2"), (requestIdHeader, bytesOf "id")]
          body := { bytes := bytesOf "ab" } }
      let direct : Request := { request with uri := ⟨none, none, ⟨"/a".toList, none⟩⟩ }
      (g.primary {} ⟨[], []⟩ request).response = (g.secondary {} ⟨[], []⟩ direct).response ∧
      (g.secondary {} ⟨[], []⟩ direct).events =
        [(0, .span "POST" "/a".toList "id".toList)] ∧
      (g.secondary {} ⟨[], []⟩ direct).response.status = 405 := by
  let pattern : Pattern := ⟨"/a".toList, "/a".toList.map .literal, rfl⟩
  let gateway : Table Handler :=
    { routes := [⟨pattern, .one .get fun _ _ => { response := .empty 200 }⟩] }
  obtain ⟨g, hg⟩ := Option.isSome_iff_exists.1
    (show (build? { gateway := ⟨"/grpc"⟩ } {} gateway).isSome from rfl)
  refine ⟨pattern, rfl, g, hg, ?_⟩
  intro request direct
  have hforwards : g.Forwards request :=
    choose_front_of_pathBelow?_isSome hg (by decide) (by decide +kernel) (by simp) _
  have huri : request.uri.below? "/grpc".toList = some direct.uri := by decide +kernel
  have hannounced : request.headers.announcedLength? = some 2 := by decide +kernel
  have hlength : ∀ n, request.headers.announcedLength? = some n →
      request.body.bytes.length ≤ n ∧ n ≤ ({} : LimitSettings).maxBodyBytes := by
    intro n hn
    obtain rfl := Option.some.inj (hannounced.symm.trans hn)
    decide
  have hdirect : request.forwarded direct.uri [] = direct := rfl
  have hrefused : gateway.choose "POST" "/a".toList =
      (some "/a".toList, .wrongMethod (some "GET,HEAD")) := rfl
  obtain ⟨⟨route, choice, hchoose, -, -, -, hanswer, hsame⟩, ⟨hresponse, -⟩, -⟩ :=
    forwarding_transparent hg (by decide) hforwards huri (by decide) hlength {} ⟨[], []⟩
  obtain ⟨rfl, rfl⟩ := Prod.mk.inj (hrefused.symm.trans hchoose)
  rw [hdirect] at hanswer hsame
  refine ⟨hresponse.trans (hsame fun _ h => nomatch h).1, ?_, ?_⟩
  · rw [hanswer]
    rfl
  · obtain ⟨-, -, -, -, -, hrequestMs, -⟩ := build?_eq_some hg
    have hms : 0 < g.requestMs := by
      rw [hrequestMs]
      decide
    rw [hanswer, Response.status_fitMethod]
    exact congrArg Response.status (if_pos hms)

/-- Answers with the number that the patterns of its route have captured, if that is all that they
have. -/
def numbered : Handler := fun _ call =>
  match call.captures with
  | .texts [(_, number)] =>
    if number.all Decimal.isDigit then { response := .text 200 (Utf8.encode number) }
    else { response := .empty 400 }
  | _ => { response := .empty 500 }

/-- Answers with a body whose length is not known in advance. -/
def streaming : Handler := fun _ _ =>
  { response := { status := 200, body := bytesOf "ab", length := .atLeast 0 } }

/-- A table with a route for each of these handlers. -/
def telling : Table Handler :=
  { routes := [
      ⟨⟨"/a/\x7bid\x7d".toList, "/a/".toList.map .literal ++ [.segment "id".toList], rfl⟩,
        .one .get numbered⟩,
      ⟨⟨"/s".toList, "/s".toList.map .literal, rfl⟩, .one .get streaming⟩] }

/-- A request without a body. -/
def bareRequest (method path : String) : Request :=
  { method, uri := ⟨none, none, ⟨path.toList, none⟩⟩
    headers := [(requestIdHeader, bytesOf "id")] }

/-- **Forwarding is not transparent altogether.** A handler that asks for the only capture of its
route is called with the capture of the primary table as well; the answer to a HEAD request for a
body of unknown length shows length zero; and if there is no time for requests, the secondary stack
does not get them. -/
theorem forwarding_shows :
    (∃ g, build? { gateway := ⟨"/grpc"⟩ } {} telling = some g ∧
      g.Forwards (bareRequest "GET" "/grpc/a/5") ∧
      (g.primary {} ⟨[], []⟩ (bareRequest "GET" "/grpc/a/5")).response.status = 500 ∧
      (g.secondary {} ⟨[], []⟩ (bareRequest "GET" "/a/5")).response.status = 200 ∧
      g.Forwards (bareRequest "HEAD" "/grpc/s") ∧
      (g.primary {} ⟨[], []⟩ (bareRequest "HEAD" "/grpc/s")).shownLength? = some (bytesOf "0") ∧
      (g.secondary {} ⟨[], []⟩ (bareRequest "HEAD" "/s")).shownLength? = none) ∧
    ∃ g, build? { gateway := ⟨"/grpc"⟩, timeouts := { requestSecs := 0 } } {} telling = some g ∧
      g.Forwards (bareRequest "GET" "/grpc/a/5") ∧
      (g.primary {} ⟨[], []⟩ (bareRequest "GET" "/grpc/a/5")).events =
        [(0, .span "GET" "/grpc/\x7b*rest\x7d".toList "id".toList)] ∧
      (g.secondary {} ⟨[], []⟩ (bareRequest "GET" "/a/5")).events =
        [(0, .span "GET" "/a/\x7bid\x7d".toList "id".toList)] := by
  constructor
  · obtain ⟨g, hg⟩ := Option.isSome_iff_exists.1
      (show (build? { gateway := ⟨"/grpc"⟩ } {} telling).isSome from rfl)
    refine ⟨g, hg, ?_⟩
    revert g
    decide +kernel
  · obtain ⟨g, hg⟩ := Option.isSome_iff_exists.1
      (show (build? { gateway := ⟨"/grpc"⟩, timeouts := { requestSecs := 0 } } {} telling).isSome
        from rfl)
    refine ⟨g, hg, ?_⟩
    revert g
    decide +kernel

end Stacks

end ProtocolGateway

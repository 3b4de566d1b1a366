import ProtocolGateway.Proofs.Http.Reaching

/-!
# One identity from end to end

A request has an identity from the moment it comes in: the first one that its client sent, or else
the one that the stack gives it. The layers of the stack make sure of that before anything else
happens, and put it on whatever response comes back, so that no refusal, no missing route and no
time limit gets around it. A request that is forwarded has an identity when it gets to the secondary
stack, which then has nothing to give.

A handler may show identities of its own; then those are left alone.

## Main definitions

* `Response.ids`: the identities that a response shows.
* `Stacks.ownIds`: those that come from the handler.

## Main results

* `Stacks.Way.in_time`: a handler that answers in time has its say.
* `Stacks.ids_shell`: a stack puts the identity on the response of what is behind its layers.
* `Stacks.secondary_congr_ids`: what has an identity is not given another one.
* `Stacks.one_identity`: the identity from end to end.
-/

namespace ProtocolGateway

namespace Headers

variable {name other : String} {value : Bytes} {headers : Headers}

theorem first?_eq_head? : headers.first? name = (headers.values name).head? := by
  induction headers with
  | nil => rfl
  | cons entry rest ih =>
    obtain ⟨k, v⟩ := entry
    by_cases h : k = name
    · simp [first?, values, h]
    · simpa [first?, values, h] using ih

theorem has_iff : headers.has name = true ↔ headers.values name ≠ [] := by
  rw [has, first?_eq_head?, List.isSome_head?]

theorem values_addMissing :
    (headers.addMissing name value).values name =
      if headers.values name = [] then [value] else headers.values name := by
  rw [addMissing]
  by_cases h : headers.values name = []
  · have hmissing : ¬headers.has name = true := fun hhas => has_iff.1 hhas h
    rw [if_neg hmissing, if_pos h]
    simp only [values, List.filter_append, List.map_append] at h ⊢
    simp [h]
  · rw [if_pos (has_iff.2 h), if_neg h]

theorem values_addMissing_of_ne (hne : other ≠ name) :
    (headers.addMissing other value).values name = headers.values name := by
  rw [addMissing]
  split
  · rfl
  · simp [values, hne]

theorem values_addMissing?_of_ne {value? : Option Bytes} (hne : other ≠ name) :
    (headers.addMissing? other value?).values name = headers.values name := by
  cases value? with
  | none => rfl
  | some value => exact values_addMissing_of_ne hne

/-- A value as spans show it. -/
def shownText (value : Bytes) : List Char := (visibleText? value).getD ['-']

end Headers

/-! ### Responses -/

namespace Response

variable {r : Response} {id : Bytes} {method : String} {allow : Option String}

/-- The identities that a response shows. -/
def ids (r : Response) : List Bytes := r.headers.values requestIdHeader

theorem ids_identified : (r.identified id).ids = if r.ids = [] then [id] else r.ids :=
  Headers.values_addMissing

theorem ids_fitMethod : (r.fitMethod method allow).ids = r.ids := by
  by_cases h : r.opensTunnel method = true
  · rw [fitMethod_of_opensTunnel h]
    split <;> rfl
  · have hfitted : (r.fittedHeaders allow).values requestIdHeader = r.ids :=
      (Headers.values_addMissing?_of_ne (by decide)).trans
        (Headers.values_addMissing?_of_ne (by decide))
    rw [fitMethod_of_not_opensTunnel h]
    split <;> exact hfitted

end Response

/-- The identities that an answer shows, if it is there in time. -/
def Answer.idsWithin (limit : Nat) (answer : Answer) : List Bytes :=
  if answer.delay < limit then answer.response.ids else []

theorem Reply.ids_within_of_ids {reply : Reply} (h : reply.response.ids = []) (limit : Nat) :
    (reply.within limit).ids = [] := by
  rw [within]
  split
  · exact h
  · rfl

/-! ### What is observed -/

/-- Whether an event is that of a request that is counted. -/
def RequestEvent.isCount : RequestEvent → Bool
  | .counted .. => true
  | .span .. | .handled _ => false

namespace Reply

/-- All that is observed of the way to a handler. -/
def traces (reply : Reply) : List RequestEvent :=
  (reply.events.map (·.2)).filter (!·.isCount)

/-- What handlers get. -/
def calls (reply : Reply) : List Call :=
  reply.traces.filterMap fun
    | .handled call => some call
    | _ => none

/-- The identities that spans show. -/
def shownIds (reply : Reply) : List (List Char) :=
  reply.traces.filterMap fun
    | .span _ _ id => some id
    | _ => none

/-- All that is observed of the way to a handler is observed at once. -/
def Prompt (reply : Reply) : Prop := ∀ e ∈ reply.events, e.2.isCount = false → e.1 = 0

variable {reply : Reply}

theorem traces_reply {call : Call} {answer : Answer} :
    (answer.reply call).traces = [.handled call] := rfl

theorem Blank.traces (h : reply.Blank) : reply.traces = [] := by
  refine List.filter_eq_nil_iff.2 fun event hevent => ?_
  obtain ⟨e, he, rfl⟩ := List.mem_map.1 hevent
  obtain ⟨method, route, status, hcount⟩ := h.counts e he
  simp [hcount, RequestEvent.isCount]

theorem Blank.prompt (h : reply.Blank) : reply.Prompt := by
  intro e he hcount
  obtain ⟨method, route, status, hcounted⟩ := h.counts e he
  rw [hcounted] at hcount
  cases hcount

theorem prompt_reply {call : Call} {answer : Answer} : (answer.reply call).Prompt := by
  intro e he _
  rw [List.mem_singleton.1 he]

theorem traces_counting {entrance : Gateway.Entrance} {r : Request} :
    (Stacks.counting r reply entrance).traces = reply.traces := by
  cases entrance with
  | secondary => rfl
  | primary => simp [traces, Stacks.counting, Layer.counted, RequestEvent.isCount]

theorem Prompt.counting (h : reply.Prompt) {entrance : Gateway.Entrance} {r : Request} :
    (Stacks.counting r reply entrance).Prompt := by
  cases entrance with
  | secondary => exact h
  | primary =>
    intro e he hcount
    rcases List.mem_append.1 he with he | he
    · exact h e he hcount
    · rw [List.mem_singleton.1 he] at hcount
      cases hcount

end Reply

namespace Layer

variable {limit : Nat} {inner : Service} {r : Request} {fresh : Bytes}

/-- What is observed at once is not cut short, if there is any time at all. -/
theorem traces_timed (h : (inner r).Prompt) :
    (timed limit inner r).traces = if 0 < limit then (inner r).traces else [] := by
  by_cases hlimit : 0 < limit
  · rw [timed, if_pos hlimit]
    split
    · rfl
    · simp only [Reply.traces, List.filter_map, List.filter_filter]
      refine congrArg _ (List.filter_congr fun e he => ?_)
      cases hcount : e.2.isCount with
      | true => simp [hcount]
      | false => simp [hcount, h e he hcount, hlimit]
  · have hnothing : (timed limit inner r).events = [] := by
      simp [timed, Nat.eq_zero_of_not_pos hlimit]
    rw [if_neg hlimit, Reply.traces, hnothing]
    rfl

/-- Whatever takes longer than the limit is answered for when that is reached. -/
theorem delay_around :
    (around fresh limit inner r).delay = min (inner (r.identified fresh)).delay limit := by
  have hdelay : (around fresh limit inner r).delay =
      (timed limit inner (r.identified fresh)).delay := by
    have hreturned : (around fresh limit inner r).delay =
        (returningId (timed limit inner) (r.identified fresh)).delay := rfl
    rw [hreturned, returningId]
    cases (r.identified fresh).headers.first? requestIdHeader <;> rfl
  rw [hdelay, timed]
  split
  · next hlt => exact (Nat.min_eq_left hlt.le).symm
  · next hlate => exact (Nat.min_eq_right (Nat.le_of_not_lt hlate)).symm

end Layer

namespace Request

variable {request : Request} {fresh : Bytes} {route : Option (List Char)}

/-- The identity of a request: the first one that its client sent, or else a fresh one. -/
def identity (fresh : Bytes) (request : Request) : Bytes :=
  (request.headers.first? requestIdHeader).getD fresh

theorem span_identified :
    ((request.enter route).identified fresh).span =
      .span request.method (request.enter route).routeLabel
        (Headers.shownText (request.identity fresh)) := by
  have hid : ((request.enter route).identified fresh).headers.first? requestIdHeader =
      some (request.identity fresh) := by
    rw [first?_identified, headers_enter, identity]
  have hshown : ((request.enter route).identified fresh).shownId? =
      Headers.visibleText? (request.identity fresh) := by
    rw [shownId?, hid]
    rfl
  rw [span, hshown, Headers.shownText]
  cases route <;> rfl

end Request

namespace Stacks

variable {g : Stacks} {live : Live} {ids : FreshIds} {request sent : Request} {fresh id : Bytes}
variable {route : Option (List Char)} {allow : Option String} {behind : Reply}
variable {entrance : Gateway.Entrance} {reached : Option (Handler × Call)} {answer : Live → Reply}

/-! ### A shell -/

/-- What a stack answers is what is behind its layers, if that is there in time. -/
theorem response_shell :
    (g.shell fresh route allow request behind).response =
      ((behind.within g.requestMs).identified (request.identity fresh)).fitMethod
        request.method allow := by
  have hshell : (g.shell fresh route allow request behind).response =
      (Layer.around fresh g.requestMs (fun _ => behind) (request.enter route)).response.fitMethod
        request.method allow := rfl
  rw [hshell, Layer.response_around, Request.headers_enter]
  rfl

theorem status_shell :
    (g.shell fresh route allow request behind).response.status =
      (behind.within g.requestMs).status := by
  rw [response_shell, Response.status_fitMethod]
  rfl

/-- **A stack puts the identity on the response** of what is behind its layers, unless that shows
one. -/
theorem ids_shell :
    (g.shell fresh route allow request behind).response.ids =
      if (behind.within g.requestMs).ids = [] then [request.identity fresh]
      else (behind.within g.requestMs).ids := by
  rw [response_shell, Response.ids_fitMethod, Response.ids_identified]

theorem delay_shell :
    (g.shell fresh route allow request behind).delay = min behind.delay g.requestMs :=
  Layer.delay_around

theorem events_shell :
    (g.shell fresh route allow request behind).events =
      (0, ((request.enter route).identified fresh).span) ::
        (Layer.timed g.requestMs (fun _ => behind)
          ((request.enter route).identified fresh)).events :=
  Layer.events_around

/-- A stack opens a span before anything else happens, and shows the identity there. -/
theorem traces_shell (h : behind.Prompt) :
    (g.shell fresh route allow request behind).traces =
      .span request.method (request.enter route).routeLabel
          (Headers.shownText (request.identity fresh)) ::
        if 0 < g.requestMs then behind.traces else [] := by
  have htraces : (g.shell fresh route allow request behind).traces =
      ((request.enter route).identified fresh).span ::
        (Layer.timed g.requestMs (fun _ => behind)
          ((request.enter route).identified fresh)).traces := by
    rw [Reply.traces, events_shell]
    rfl
  rw [htraces, Layer.traces_timed h, Request.span_identified]

theorem prompt_shell (h : behind.Prompt) :
    (g.shell fresh route allow request behind).Prompt := by
  intro e he hcount
  rw [events_shell] at he
  rcases List.mem_cons.1 he with rfl | he
  · rfl
  · refine h e ?_ hcount
    rw [Layer.timed] at he
    split at he
    · exact he
    · exact (List.mem_filter.1 he).1

/-! ### The ways -/

/-- The identities that come from the handler that a request gets to, if it answers in time. -/
def ownIds (g : Stacks) (live : Live) (reached : Option (Handler × Call)) : List Bytes :=
  match reached with
  | some (h, call) => (h live call).idsWithin g.requestMs
  | none => []

/-- The request that is handed over has the identity of the one that came in. -/
theorem identity_sent (h : g.sent? fresh entrance request = some sent) (other : Bytes) :
    sent.identity other = request.identity fresh := by
  rw [Request.identity, headers_sent h, Headers.first?_addMissing]
  rfl

namespace Way

/-- All replies are prompt. -/
theorem prompt (way : g.Way ids entrance request reached answer) (live : Live) :
    (answer live).Prompt := by
  induction way with
  | nowhere _ _ _ _ _ _ hblank => exact prompt_shell hblank.prompt
  | handled => exact prompt_shell Reply.prompt_reply.counting
  | forwarded _ _ _ _ _ _ _ _ _ ih => exact prompt_shell ih.counting

/-- The handler that a request gets to gets it once, and no other gets anything. -/
theorem calls (way : g.Way ids entrance request reached answer) (live : Live) :
    (answer live).calls = reached.toList.map (·.2) := by
  induction way with
  | nowhere _ _ _ _ _ _ hblank =>
    rw [Reply.calls, traces_shell hblank.prompt, hblank.traces, ite_self]
    rfl
  | handled _ _ _ _ _ _ _ htime =>
    rw [Reply.calls, traces_shell Reply.prompt_reply.counting, if_pos htime,
      Reply.traces_counting, Reply.traces_reply]
    rfl
  | forwarded _ _ _ _ _ _ _ htime hway ih =>
    rw [Reply.calls, traces_shell (hway.prompt live).counting, if_pos htime,
      Reply.traces_counting]
    exact ih

/-- Every span shows the identity of the request. -/
theorem shownIds (way : g.Way ids entrance request reached answer) (live : Live) :
    (answer live).shownIds =
      let shown := Headers.shownText (request.identity (ids.given entrance))
      match g.sent? (ids.given entrance) entrance request with
      | some _ => [shown, shown]
      | none => [shown] := by
  induction way with
  | nowhere _ _ _ _ _ hsent hblank =>
    rw [Reply.shownIds, traces_shell hblank.prompt, hblank.traces, ite_self, hsent]
    rfl
  | handled _ _ _ _ _ _ hsent htime =>
    rw [Reply.shownIds, traces_shell Reply.prompt_reply.counting, if_pos htime,
      Reply.traces_counting, Reply.traces_reply, hsent]
    rfl
  | forwarded _ sent _ _ _ answer hsent htime hway ih =>
    have hbehind : (answer live).shownIds =
        [Headers.shownText (sent.identity ids.secondary)] := ih
    rw [identity_sent hsent] at hbehind
    rw [Reply.shownIds, traces_shell (hway.prompt live).counting, if_pos htime,
      Reply.traces_counting, FreshIds.given, hsent]
    exact congrArg _ hbehind

/-- **The status of a handler that answers in time** is the status of the reply, which is in time
as well. -/
theorem in_time (way : g.Way ids entrance request reached answer) (live : Live) {handler : Handler}
    {call : Call} (hreached : reached = some (handler, call))
    (htime : (handler live call).delay < g.requestMs) :
    (answer live).delay < g.requestMs ∧
      (answer live).response.status = (handler live call).response.status := by
  induction way with
  | nowhere => cases hreached
  | handled entrance request route r h called =>
    obtain ⟨rfl, rfl⟩ := Prod.mk.inj (Option.some.inj hreached)
    rw [delay_shell, status_shell, Reply.within, delay_counting, response_counting]
    exact ⟨(Nat.min_le_left _ _).trans_lt htime, congrArg Response.status (if_pos htime)⟩
  | forwarded request sent route r reached answer _ _ _ ih =>
    obtain ⟨hdelay, hstatus⟩ := ih hreached
    rw [delay_shell, status_shell, Reply.within, delay_counting, response_counting, if_pos hdelay]
    exact ⟨(Nat.min_le_left _ _).trans_lt hdelay, hstatus⟩

/-- The identities of a handler are seen only of one that was in time. -/
theorem delay_lt (way : g.Way ids entrance request reached answer) (live : Live)
    (h : g.ownIds live reached ≠ []) : (answer live).delay < g.requestMs := by
  cases reached with
  | none => exact absurd rfl h
  | some found =>
    have htime : (found.1 live found.2).delay < g.requestMs := by
      by_contra hlate
      exact h (if_neg hlate)
    exact (way.in_time live rfl htime).1

/-- **The response shows the identity of the request**, unless it is that of a handler which shows
identities of its own. -/
theorem ids_response (way : g.Way ids entrance request reached answer) (live : Live) :
    (answer live).response.ids =
      if g.ownIds live reached = [] then [request.identity (ids.given entrance)]
      else g.ownIds live reached := by
  induction way with
  | nowhere _ _ _ _ behind _ hblank =>
    have hnone : (behind.within g.requestMs).ids = [] := by
      refine Reply.ids_within_of_ids ?_ _
      by_contra hids
      have hhas := Headers.has_iff.2 hids
      rw [hblank.unidentified] at hhas
      cases hhas
    rw [ids_shell, hnone]
    rfl
  | handled entrance request route r handler call =>
    have hown : ((counting r ((handler live call).reply call) entrance).within g.requestMs).ids =
        g.ownIds live (some (handler, call)) := by
      cases entrance <;> exact apply_ite Response.ids _ _ _
    rw [ids_shell, hown]
  | forwarded request sent route r reached answer hsent htime hway ih =>
    have hwithin : (counting r (answer live) .primary).within g.requestMs =
        (answer live).within g.requestMs := rfl
    rw [ids_shell, hwithin]
    by_cases hown : g.ownIds live reached = []
    · rw [if_pos hown] at ih ⊢
      have hid : sent.identity (ids.given .secondary) = request.identity (ids.given .primary) :=
        identity_sent hsent _
      rw [hid] at ih
      rw [Reply.within]
      split
      · rw [ih]
        rfl
      · rfl
    · rw [if_neg hown] at ih ⊢
      rw [Reply.within, if_pos (hway.delay_lt live hown), ih, if_neg hown]

/-- What a handler gets of the headers: an identity is added if the client sent none, and otherwise
nothing is touched. -/
theorem headers_eq (way : g.Way ids entrance request reached answer) {h : Handler} {call : Call}
    (hreached : reached = some (h, call)) :
    call.headers = request.headers.addMissing requestIdHeader (ids.given entrance) := by
  induction way with
  | nowhere => cases hreached
  | handled _ _ _ _ _ _ _ _ hheaders =>
    cases hreached
    exact hheaders
  | forwarded request sent _ _ _ _ hsent _ _ ih =>
    have hid : sent.headers.first? requestIdHeader = some (request.identity ids.primary) := by
      rw [headers_sent hsent, Headers.first?_addMissing, Request.identity]
    rw [ih hreached, Headers.addMissing_of_first? hid, headers_sent hsent]
    rfl

end Way

/-! ### No second identity -/

/-- What has an identity is not given another one. -/
theorem secondary_congr_ids (h : sent.headers.first? requestIdHeader = some id) (other : FreshIds) :
    g.secondary live ids sent = g.secondary live other sent := by
  rcases hchoose : g.back.choose sent.method sent.uri.path with ⟨route, choice⟩
  have hid : (sent.enter route).headers.first? requestIdHeader = some id := by
    rw [Request.headers_enter, h]
  have hsame (fresh : Bytes) (behind : Reply) :
      g.shell fresh route choice.allow? sent behind =
        g.shell ids.secondary route choice.allow? sent behind := by
    rw [shell, shell, Layer.around, Layer.around, Layer.identified, Layer.identified,
      Headers.addMissing_of_first? hid, Headers.addMissing_of_first? hid]
  rw [secondary_eq_shell hchoose, secondary_eq_shell hchoose, hsame other.secondary,
    Request.identified_of_first? hid, Request.identified_of_first? hid]

/-- **No second identity.** The primary stack does not depend on what the secondary one would
give. -/
theorem primary_congr_ids (other : Bytes) :
    g.primary live { ids with secondary := other } request = g.primary live ids request := by
  rcases hchoose : g.front.choose request.method request.uri.path with ⟨route, choice⟩
  have hendpoint (endpoint : Endpoint) :
      g.endpointService live { ids with secondary := other } endpoint
          ((request.enter route).admitted ids.primary g.maxBodyBytes) =
        g.endpointService live ids endpoint
          ((request.enter route).admitted ids.primary g.maxBodyBytes) := by
    cases endpoint with
    | handler h => rfl
    | forward =>
      rw [forward_admitted hchoose, forward_admitted hchoose]
      cases request.uri.below? g.reserved with
      | none => rfl
      | some uri =>
        have hid : ((g.handed uri ids.primary request).capped
            (request.bodyCap g.maxBodyBytes)).headers.first? requestIdHeader =
              some (request.identity ids.primary) := Headers.first?_addMissing
        exact secondary_congr_ids hid ids
  have hservice : choice.service (g.endpointService live { ids with secondary := other })
        ((request.enter route).admitted ids.primary g.maxBodyBytes) =
      choice.service (g.endpointService live ids)
        ((request.enter route).admitted ids.primary g.maxBodyBytes) := by
    cases choice with
    | endpoint endpoint => exact hendpoint endpoint
    | wrongMethod => rfl
    | notFound => rfl
  simp only [primary_eq_shell hchoose, Layer.counted, hservice]

/-! ### From end to end -/

/-- **One identity from end to end.** The identity of a request is the first one that its client
sent, or else the one that the stack at its entrance gives it. The response always shows one: what
the handler shows of itself, if it was in time, and otherwise the identity of the request, once. The
request gets to at most one handler, which sees that identity and whatever the client sent; and
every span shows it, that of the primary stack and, if the request is handed over, that of the
secondary one, which gives none itself. -/
theorem one_identity (g : Stacks) (live : Live) (ids : FreshIds) (entrance : Gateway.Entrance)
    (request : Request) :
    let reply := g.service live ids entrance request
    let id := request.identity (ids.given entrance)
    let own := g.ownIds live (g.reached? ids entrance request)
    let shown := Headers.shownText id
    reply.response.headers.has requestIdHeader = true ∧
    reply.response.headers.values requestIdHeader = (if own = [] then [id] else own) ∧
    reply.calls = (g.reached? ids entrance request).toList.map (·.2) ∧
    (∀ call ∈ reply.calls,
      call.headers.first? requestIdHeader = some id ∧
      call.headers =
        if request.headers.has requestIdHeader then request.headers
        else request.headers ++ [(requestIdHeader, ids.given entrance)]) ∧
    (reply.shownIds =
      match g.sent? (ids.given entrance) entrance request with
      | some _ => [shown, shown]
      | none => [shown]) ∧
    ∀ other : Bytes,
      g.service live { ids with secondary := other } .primary request =
        g.service live ids .primary request := by
  intro reply id own shown
  have way : g.Way ids entrance request (g.reached? ids entrance request)
      fun live => g.service live ids entrance request := way_service entrance
  have hids : reply.response.ids = if own = [] then [id] else own := way.ids_response live
  have hcalls : reply.calls = (g.reached? ids entrance request).toList.map (·.2) := way.calls live
  refine ⟨?_, hids, hcalls, ?_, way.shownIds live, primary_congr_ids⟩
  · refine Headers.has_iff.2 ?_
    change reply.response.ids ≠ []
    rw [hids]
    split
    · exact List.cons_ne_nil _ _
    · next hown => exact hown
  · intro call hcall
    rw [hcalls] at hcall
    obtain ⟨⟨h, _⟩, hreached, rfl⟩ := List.mem_map.1 hcall
    have hheaders := way.headers_eq (Option.mem_toList.1 hreached)
    refine ⟨?_, hheaders⟩
    rw [hheaders, Headers.first?_addMissing]
    rfl

end Stacks

end ProtocolGateway

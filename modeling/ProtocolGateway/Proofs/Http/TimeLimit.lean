import ProtocolGateway.Proofs.Http.Counting
import ProtocolGateway.Rehearsal.Handlers

/-!
# The time for a request is one budget

Both stacks keep the same time, and a request that is forwarded is timed by both, from the same
moment on. If the handler answers within that time, its answer passes both limits. If it does not,
both limits are reached at once; the outer one comes first, so the request is answered by the
primary stack, after the time and not after twice the time, and what the layers further in would
have counted is not counted.

## Main results

* `Stacks.Way.reply_eq`: what becomes of the answer of the handler that a request gets to.
* `Stacks.delay_service_le`: no reply takes longer than the time for a request.
* `Stacks.one_budget`: the answer of the handler, or the end of the time.
-/

namespace ProtocolGateway

namespace Stacks

variable {g : Stacks} {live : Live} {ids : FreshIds} {entrance : Gateway.Entrance}
variable {request : Request} {reached : Option (Handler × Call)} {answer : Live → Reply}
variable {handler : Handler} {call : Call}

/-- **What becomes of the answer of a handler**, whatever way the request has taken to it: it is
seen with the identity of the request, if it is there in time, and otherwise the time is up for both
stacks at the same moment. If the request was forwarded, an answer to HEAD shows a length. -/
theorem Way.reply_eq (way : g.Way ids entrance request reached answer)
    (hreached : reached = some (handler, call)) (live : Live) :
    let fitted := ((((handler live call).reply call).within g.requestMs).identified
      (request.identity (ids.given entrance))).fitMethod request.method none
    (answer live).delay = min (handler live call).delay g.requestMs ∧
      (answer live).response =
        if (g.sent? (ids.given entrance) entrance request).isSome then
          fitted.showingLength request.method
        else fitted := by
  induction way with
  | nowhere => cases hreached
  | handled entrance request route r h called hsent =>
    obtain ⟨rfl, rfl⟩ := Prod.mk.inj (Option.some.inj hreached)
    have hwithin : (counting r ((h live called).reply called) entrance).within g.requestMs =
        ((h live called).reply called).within g.requestMs := by
      cases entrance <;> rfl
    rw [delay_shell, response_shell, hwithin, delay_counting, hsent]
    exact ⟨rfl, rfl⟩
  | forwarded request sent route r reached answer hsent _ hway ih =>
    obtain ⟨hdelay, hresponse⟩ := ih hreached
    have hid : sent.identity (ids.given .secondary) = request.identity (ids.given .primary) :=
      identity_sent hsent _
    have hmethod : sent.method = request.method := (method_headers_sent hsent).1
    have honce : (answer live).response =
        ((((handler live call).reply call).within g.requestMs).identified
          (request.identity (ids.given .primary))).fitMethod request.method none := by
      rw [hid, hmethod] at hresponse
      exact hresponse
    rw [show g.sent? (ids.given .primary) .primary request = some sent from hsent, delay_shell,
      delay_counting, hdelay, response_shell]
    refine ⟨by omega, ?_⟩
    have hbehind : (counting r (answer live) .primary).within g.requestMs =
        (⟨min ((handler live call).reply call).delay g.requestMs, (answer live).response, []⟩ :
          Reply).within g.requestMs := by
      rw [Reply.within, Reply.within, delay_counting, response_counting, hdelay]
      rfl
    rw [hbehind, Option.isSome_some, if_pos rfl, ← honce]
    exact Reply.within_again (fun _ => rfl) honce _

/-- **No reply takes longer** than the time for a request, however often it is kept. -/
theorem delay_service_le : (g.service live ids entrance request).delay ≤ g.requestMs := by
  have hshell (fresh : Bytes) (route : Option (List Char)) (allow : Option String)
      (behind : Reply) : (g.shell fresh route allow request behind).delay ≤ g.requestMs :=
    delay_shell.trans_le (Nat.min_le_right _ _)
  cases entrance with
  | primary =>
    rcases hchoose : g.front.choose request.method request.uri.path with ⟨route, choice⟩
    rw [service, primary_eq_shell hchoose]
    exact hshell _ _ _ _
  | secondary =>
    rcases hchoose : g.back.choose request.method request.uri.path with ⟨route, choice⟩
    rw [service, secondary_eq_shell hchoose]
    exact hshell _ _ _ _

/-- A request that has run out of time is not counted. -/
theorem addReply_of_late (hlate : g.requestMs ≤ (g.service live ids entrance request).delay)
    (metrics : Metrics) : metrics.addReply (g.service live ids entrance request) = metrics := by
  have hnothing : (g.service live ids entrance request).counts = [] := by
    rw [counts_service, if_neg]
    rintro ⟨-, -, hintime⟩
    exact Nat.not_lt.2 hlate hintime
  rw [Metrics.addReply_eq, hnothing]
  rfl

/-- **The time for a request is one budget.** A request gets to a handler: to one of the primary
table, to one of the secondary table, or to one of that by way of the primary stack; that handler
gets it once, and no other does. If the handler answers before the time is up, its response is there
after as long as the handler took; it shows the identity of the request and fits the method.
Otherwise the answer is there when the time is up, says so with an empty body and with the identity
of the request, and nothing is counted. No request takes longer than that, whatever becomes of it.
-/
theorem one_budget {s : Settings} {http gateway : Table Handler}
    (hbuild : build? s http gateway = some g) (live : Live) (ids : FreshIds)
    (entrance : Gateway.Entrance) (request : Request) :
    let limit := 1000 * s.timeouts.requestSecs
    let reply := g.service live ids entrance request
    let id := request.identity (ids.given entrance)
    (∀ handler call, g.reached? ids entrance request = some (handler, call) →
      let answer := handler live call
      let fitted := (answer.response.identified id).fitMethod request.method none
      reply.calls = [call] ∧
      (answer.delay < limit → reply.delay = answer.delay ∧
        reply.response = if (g.sent? (ids.given entrance) entrance request).isSome then
          fitted.showingLength request.method else fitted) ∧
      (limit ≤ answer.delay → reply.delay = limit ∧
        reply.response =
          { status := 408, headers := [(requestIdHeader, id), ("content-length", bytesOf "0")] } ∧
        ∀ metrics : Metrics, metrics.addReply reply = metrics)) ∧
    reply.delay ≤ limit := by
  intro limit reply id
  obtain ⟨-, -, -, -, -, hms, -⟩ := build?_eq_some hbuild
  have hlimit : g.requestMs = limit := hms.trans (Nat.mul_comm _ _)
  have way : g.Way ids entrance request (g.reached? ids entrance request)
      fun live => g.service live ids entrance request := way_service entrance
  refine ⟨fun handler call hreached => ?_, delay_service_le.trans_eq hlimit⟩
  intro answer fitted
  obtain ⟨hdelay, hresponse⟩ : reply.delay = min answer.delay g.requestMs ∧ reply.response = _ :=
    way.reply_eq hreached live
  have hwithin : (answer.reply call).within limit =
      if answer.delay < limit then answer.response else .empty 408 := rfl
  rw [hlimit] at hdelay hresponse
  rw [hwithin] at hresponse
  have hcalls : reply.calls = (g.reached? ids entrance request).toList.map (·.2) := way.calls live
  rw [hreached] at hcalls
  refine ⟨hcalls, ?_, ?_⟩
  · intro hintime
    rw [if_pos hintime] at hresponse
    exact ⟨hdelay.trans (Nat.min_eq_left hintime.le), hresponse⟩
  · intro hlate
    have hdelay : reply.delay = limit := hdelay.trans (Nat.min_eq_right hlate)
    rw [if_neg (Nat.not_lt.2 hlate), Response.fitMethod_timeUp, Response.showingLength_timeUp,
      ite_self] at hresponse
    exact ⟨hdelay, hresponse, addReply_of_late (hlimit.trans_le hdelay.ge)⟩

/-- A request that is let through and forwarded gets to the handler that the secondary table
chooses for what is left of its path. -/
theorem reached_of_forward {uri : Uri} {route : Option (List Char)} (hadmits : g.Admits request)
    (hforward : (g.front.choose request.method request.uri.path).2 = .endpoint .forward)
    (huri : request.uri.below? g.reserved = some uri)
    (hchoose : g.back.choose request.method uri.path = (route, .endpoint handler)) :
    ∃ call, g.reached? ids .primary request = some (handler, call) := by
  have hsent : g.sent? ids.primary .primary request = some
      ((g.handed uri ids.primary request).capped (request.bodyCap g.maxBodyBytes)) := by
    rw [sent?_of_forward hforward hadmits, huri]
    rfl
  have hback : g.back.choose
      ((g.handed uri ids.primary request).capped (request.bodyCap g.maxBodyBytes)).method
      ((g.handed uri ids.primary request).capped (request.bodyCap g.maxBodyBytes)).uri.path =
        (route, .endpoint handler) := hchoose
  simp only [reached?, hsent, backReached?, hback, if_pos hadmits.time]
  exact ⟨_, rfl⟩

/-- A table with two routes, of which one answers a little earlier than the other. -/
def dozing : Table Handler :=
  { routes := [
      ⟨⟨"/nap".toList, "/nap".toList.map .literal, rfl⟩, .one .get (Rehearsal.sleeping 999)⟩,
      ⟨⟨"/tie".toList, "/tie".toList.map .literal, rfl⟩, .one .get (Rehearsal.sleeping 1000)⟩] }

/-- Of two requests that are forwarded the one is answered just in time, and the other at the very
moment at which the time is up for both stacks. -/
theorem one_budget_forwarded :
    ∃ g, build? { gateway := ⟨"/grpc"⟩, timeouts := { requestSecs := 1 } } {} dozing = some g ∧
      (g.primary {} ⟨[], []⟩ (bareRequest "GET" "/grpc/nap")).delay = 999 ∧
      (g.primary {} ⟨[], []⟩ (bareRequest "GET" "/grpc/nap")).response.status = 200 ∧
      (g.primary {} ⟨[], []⟩ (bareRequest "GET" "/grpc/tie")).delay = 1000 ∧
      (g.primary {} ⟨[], []⟩ (bareRequest "GET" "/grpc/tie")).response =
        { status := 408
          headers := [(requestIdHeader, bytesOf "id"), ("content-length", bytesOf "0")] } := by
  obtain ⟨g, hg⟩ := Option.isSome_iff_exists.1
    (show (build? { gateway := ⟨"/grpc"⟩, timeouts := { requestSecs := 1 } } {} dozing).isSome
      from rfl)
  obtain ⟨-, -, -, hback, hreserved, hms, -⟩ := build?_eq_some hg
  have hadmits (path : String) : g.Admits (bareRequest "GET" path) := by
    refine ⟨by rw [hms]; decide, fun n hn => ?_⟩
    cases hn
  have hreached (path : String) (uri : Uri) (delay : Nat) (route : Option (List Char))
      (hpath : (pathBelow? "/grpc".toList (bareRequest "GET" path).uri.path).isSome)
      (huri : (bareRequest "GET" path).uri.below? "/grpc".toList = some uri)
      (hchoose : dozing.choose "GET" uri.path = (route, .endpoint (Rehearsal.sleeping delay))) :
      ∃ call, g.reached? ⟨[], []⟩ .primary (bareRequest "GET" path) =
        some (Rehearsal.sleeping delay, call) :=
    reached_of_forward (hadmits path)
      (choose_front_of_pathBelow?_isSome hg (by decide) hpath (by simp) "GET")
      (hreserved ▸ huri) (hback ▸ hchoose)
  obtain ⟨nap, hnap⟩ := hreached "/grpc/nap" ⟨none, none, ⟨"/nap".toList, none⟩⟩ 999 _
    (by decide +kernel) (by decide +kernel) rfl
  obtain ⟨tie, htie⟩ := hreached "/grpc/tie" ⟨none, none, ⟨"/tie".toList, none⟩⟩ 1000 _
    (by decide +kernel) (by decide +kernel) rfl
  have hbudget (path : String) :=
    (one_budget hg {} ⟨[], []⟩ .primary (bareRequest "GET" path)).1
  obtain ⟨-, hintime, -⟩ := hbudget "/grpc/nap" _ nap hnap
  obtain ⟨hdelay, hresponse⟩ := hintime (show 999 < 1000 by decide)
  obtain ⟨-, -, hlate⟩ := hbudget "/grpc/tie" _ tie htie
  obtain ⟨hdelay', hresponse', -⟩ := hlate (show 1000 ≤ 1000 from le_rfl)
  refine ⟨g, hg, hdelay, ?_, hdelay', hresponse'⟩
  refine (congrArg Response.status hresponse).trans ?_
  rw [apply_ite Response.status, Response.status_showingLength, ite_self, Response.status_fitMethod]
  rfl

end Stacks

end ProtocolGateway

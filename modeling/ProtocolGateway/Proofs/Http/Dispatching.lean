import ProtocolGateway.Proofs.Http.Admission

/-!
# Which requests are dispatched

A request on a reserved path is dispatched to the secondary table, unless the primary table has a
route of its own for the path. But the layers around the routes come first: they refuse a request
that announces too long a body, and answer for one that there is no time for. So the requests that
are dispatched are those below the reserved path that get through the layers, and none of them is
refused for its path again.

Whether a request is dispatched cannot be seen in a single reply. It is if the reply depends on the
service to which requests are dispatched.

## Main definitions

* `Stacks.Dispatches`: the primary stack dispatches a request.
* `Stacks.dispatched`: the request as it is dispatched.

## Main results

* `Stacks.response_primaryWith`: what is answered to a request that is dispatched.
* `Stacks.dispatches_iff_below`: which requests are dispatched.
* `Stacks.below_not_dispatched`: a request below the reserved path that is not.
-/

namespace ProtocolGateway

namespace Stacks

variable {s : Settings} {http gateway : Table Handler} {g : Stacks} {request : Request}
variable {live : Live} {ids : FreshIds}

/-- The primary stack dispatches the request: its reply depends on the service that it dispatches
to. -/
def Dispatches (g : Stacks) (request : Request) : Prop :=
  ∃ (forwarding other : Service) (live : Live) (ids : FreshIds),
    g.primaryWith forwarding live ids request ≠ g.primaryWith other live ids request

/-- The request as it is dispatched, if it is. -/
def dispatched (g : Stacks) (fresh : Bytes) (request : Request) : Request :=
  (request.enter (g.front.choose request.method request.uri.path).1).admitted fresh g.maxBodyBytes

/-- **What is answered to a request that is dispatched** is what the service answers in time that it
is dispatched to. -/
theorem response_primaryWith (hforwards : g.Forwards request) (hadmits : g.Admits request)
    (forwarding : Service) :
    (g.primaryWith forwarding live ids request).response =
      (((forwarding (g.dispatched ids.primary request)).within g.requestMs).identified
        ((request.headers.first? requestIdHeader).getD ids.primary)).fitMethod
          request.method none := by
  rcases hchoose : g.front.choose request.method request.uri.path with ⟨route, choice⟩
  obtain rfl : choice = .endpoint .forward := by rwa [Forwards, hchoose] at hforwards
  have hlayers : (g.frontLayers ids.primary forwarding (request.enter route)).response = _ :=
    Layer.response_around
  rw [sized_eq (admits_enter.2 hadmits), Request.headers_enter] at hlayers
  rw [primaryWith, Table.serve, dispatched, hchoose]
  exact congrArg (Response.fitMethod request.method none) hlayers

/-- A request that the table does not forward is not dispatched. -/
theorem not_dispatches_of_not_forwards (h : ¬g.Forwards request) : ¬g.Dispatches request := by
  rintro ⟨forwarding, other, live, ids, hne⟩
  refine hne ?_
  rcases hchoose : g.front.choose request.method request.uri.path with ⟨route, choice⟩
  rw [Forwards, hchoose] at h
  rw [primaryWith, primaryWith, Table.serve, Table.serve, hchoose]
  cases choice with
  | endpoint endpoint =>
    cases endpoint with
    | handler => rfl
    | forward => exact absurd rfl h
  | wrongMethod => rfl
  | notFound => rfl

/-- A request that is not let through is not dispatched. -/
theorem not_dispatches_of_not_admits (h : ¬g.Admits request) : ¬g.Dispatches request := by
  rintro ⟨forwarding, other, live, ids, hne⟩
  rcases hchoose : g.front.choose request.method request.uri.path with ⟨route, choice⟩
  exact hne ((primaryWith_of_not_admits hchoose h forwarding).trans
    (primaryWith_of_not_admits hchoose h other).symm)

/-- **A request is dispatched** exactly if the table forwards it and the layers let it through. -/
theorem dispatches_iff : g.Dispatches request ↔ g.Forwards request ∧ g.Admits request := by
  refine ⟨fun h => ⟨?_, ?_⟩, fun ⟨hforwards, hadmits⟩ => ?_⟩
  · by_contra hforwards
    exact not_dispatches_of_not_forwards hforwards h
  · by_contra hrefused
    exact not_dispatches_of_not_admits hrefused h
  · refine ⟨.status 200, .status 404, {}, ⟨[], []⟩, fun hsame => ?_⟩
    have hstatus (status : Nat) :
        (g.primaryWith (.status status) {} ⟨[], []⟩ request).response.status = status := by
      rw [response_primaryWith hforwards hadmits, Response.status_fitMethod]
      exact congrArg Response.status (if_pos hadmits.time)
    have hequal := congrArg (·.response.status) hsame
    simp only [hstatus] at hequal
    exact absurd hequal (by decide)

/-- **Which requests are dispatched.** With a literal prefix, whatever slashes stand at its end, the
paths of which something is left for the secondary table are the reserved path and those that go on
after it with a slash. Of the requests whose path no other route has, those on such a path are
dispatched that the layers let through, because there is time for them and they announce no longer
body than is allowed; the others on such a path are refused by the layers. The test for what is left
of the path refuses none that are dispatched. On all other paths nothing is dispatched, and the
primary service is that of the table without the routes that forward. -/
theorem dispatches_iff_below (h : build? s http gateway = some g)
    (hplain : IsPlain s.gateway.pathPrefix.toList) {text : List Char}
    (huri : Uri.parse text = .ok request.uri) :
    let below := request.uri.below? s.gateway.trimmedPrefix
    (below.isSome ↔ request.uri.path = s.gateway.trimmedPrefix ∨
      s.gateway.trimmedPrefix ++ ['/'] <+: request.uri.path) ∧
    ((∀ r ∈ http.routes, r.pattern.matchesPath request.uri.path = false) →
      (g.Dispatches request ↔ below.isSome ∧ 0 < s.timeouts.requestMs ∧
        ∀ n, request.headers.announcedLength? = some n → n ≤ s.limits.maxBodyBytes) ∧
      (below.isSome → ¬g.Dispatches request → ∀ live ids,
        (g.primary live ids request).response.status =
          if 0 < s.timeouts.requestMs then 413 else 408)) ∧
    (∀ uri, below = some uri → ∀ (inner : Service) (r : Request), r.uri = request.uri →
      dispatch g.reserved inner r = inner { r with uri, route := none }) ∧
    (below = none → ¬g.Dispatches request ∧ ∀ live ids,
      g.primary live ids request =
        ({ g with front := http.map .handler } : Stacks).primary live ids request) := by
  intro below
  obtain ⟨forwarding, hforwarding, -, -, hreserved, hms, hmax⟩ := build?_eq_some h
  have hsome := isSome_below?_iff h huri
  have houtside (hnone : below = none) : g.front.choose request.method request.uri.path =
      (http.map .handler).choose request.method request.uri.path := by
    refine choose_front_of_pathBelow?_eq_none h hplain ?_ _
    rw [← Option.not_isSome_iff_eq_none, ← hsome]
    exact fun hrest => by simp [below, hnone] at hrest
  have hadmits : g.Admits request ↔ 0 < s.timeouts.requestMs ∧
      ∀ n, request.headers.announcedLength? = some n → n ≤ s.limits.maxBodyBytes := by
    rw [← hms, ← hmax]
    exact ⟨fun hadmits => ⟨hadmits.time, hadmits.length⟩, fun ⟨htime, hlength⟩ => ⟨htime, hlength⟩⟩
  refine ⟨hsome.trans isSome_pathBelow?_iff, fun hfree => ⟨?_, fun hrest hnot live ids => ?_⟩,
    fun uri hrest inner r hr => ?_, fun hnone => ⟨?_, fun live ids => ?_⟩⟩
  · rw [dispatches_iff, forwards_iff_below h hplain huri hfree, hadmits]
  · have hrefused : ¬g.Admits request := fun hadmits =>
      hnot (dispatches_iff.2 ⟨(forwards_iff_below h hplain huri hfree).2 hrest, hadmits⟩)
    rw [← hms]
    exact status_primaryWith_of_not_admits hrefused _
  · rw [hreserved]
    exact dispatch_of_below? (by rw [hr]; exact hrest) inner
  · refine not_dispatches_of_not_forwards ?_
    rw [Forwards, houtside hnone]
    exact choose_handlers_ne_forward http _ _
  · exact Table.serve_congr (houtside hnone) ..

/-- A prefix with slashes at its end, and a route of the primary table beside it: what goes on after
the prefix is dispatched, and what only starts with the same letters is not. -/
theorem dispatches_iff_below_grpc :
    ∃ pattern : Pattern, pattern.text = "/api/\x7b*rest\x7d".toList ∧
    ∃ g, build? { gateway := ⟨"/grpc//"⟩ }
        { routes := [⟨pattern, .one .get fun _ _ => { response := .empty 200 }⟩] } {} = some g ∧
      IsPlain "/grpc//".toList ∧
      (∃ uri, Uri.parse "http://h/grpc//a?x".toList = .ok uri ∧
        g.Dispatches { method := "PUT", uri }) ∧
      ∃ uri, Uri.parse "/grpcx".toList = .ok uri ∧ ¬g.Dispatches { method := "PUT", uri } := by
  let pattern : Pattern :=
    ⟨"/api/\x7b*rest\x7d".toList, "/api/".toList.map .literal ++ [.rest "rest".toList], rfl⟩
  have hplain : IsPlain "/grpc//".toList := by decide
  obtain ⟨g, hg⟩ := Option.isSome_iff_exists.1 (show (build? { gateway := ⟨"/grpc//"⟩ }
    { routes := [⟨pattern, .one .get fun _ _ => { response := .empty 200 }⟩] } {}).isSome from rfl)
  have hbelow : Uri.parse "http://h/grpc//a?x".toList =
      .ok ⟨some "http".toList, some ['h'], ⟨"/grpc//a".toList, some ['x']⟩⟩ := rfl
  have hbeside : Uri.parse "/grpcx".toList = .ok ⟨none, none, ⟨"/grpcx".toList, none⟩⟩ := rfl
  refine ⟨pattern, rfl, g, hg, hplain, ⟨_, hbelow, ?_⟩, ⟨_, hbeside, ?_⟩⟩
  · refine ((dispatches_iff_below hg hplain hbelow).2.1 (by decide)).1.2
      ⟨by decide +kernel, by decide, fun n hn => nomatch hn⟩
  · exact ((dispatches_iff_below hg hplain hbeside).2.2.2 (by decide +kernel)).1

/-- A request below the reserved path that announces more octets than are allowed is refused by the
layers of the primary stack, and not dispatched. -/
theorem below_not_dispatched :
    ∃ g, build? { gateway := ⟨"/grpc"⟩, limits := { maxBodyBytes := 4 } } {} {} = some g ∧
    ∃ uri, Uri.parse "/grpc/x".toList = .ok uri ∧ (uri.below? "/grpc".toList).isSome ∧
      let request : Request :=
        { method := "POST", uri
          headers := [("x-request-id", bytesOf "a"), ("content-length", bytesOf "5")]
          body := { bytes := bytesOf "hello" } }
      ¬g.Dispatches request ∧
        ∀ live ids, (g.primary live ids request).response.status = 413 := by
  obtain ⟨g, hg⟩ := Option.isSome_iff_exists.1
    (show (build? { gateway := ⟨"/grpc"⟩, limits := { maxBodyBytes := 4 } } {} {}).isSome from rfl)
  refine ⟨g, hg, ⟨none, none, ⟨"/grpc/x".toList, none⟩⟩, rfl, by decide +kernel, ?_⟩
  intro request
  obtain ⟨-, -, -, -, -, hms, hmax⟩ := build?_eq_some hg
  have hrefused : ¬g.Admits request := by
    intro hadmits
    have hle := hadmits.length 5 (by decide +kernel)
    rw [hmax] at hle
    exact absurd hle (by decide)
  refine ⟨not_dispatches_of_not_admits hrefused, fun live ids => ?_⟩
  have hstatus : (g.primary live ids request).response.status = _ :=
    status_primaryWith_of_not_admits hrefused _
  rw [hstatus, hms]
  rfl

end Stacks

end ProtocolGateway

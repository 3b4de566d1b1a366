import ProtocolGateway.BuiltIn.Operations
import ProtocolGateway.Proofs.Route.Joining
import ProtocolGateway.Startup.Launch

/-!
# Registering routes

Routes are added to the two tables of a context one call after another. A call that is refused
changes nothing. After a call that is not, a request that still has the pattern that it had before
is answered as before, unless the call brought a nearer endpoint for that pattern: one for the
method itself where the endpoint for all other methods answered, or one for HEAD where that of GET
did. Such a call is not refused, although both answer the request.

## Main definitions

* `RouteCall`: a call that adds routes.
* `RouteCall.makeAll`: makes some calls.
* `Context.table`: the table that routes are added to.

## Main results

* `Context.routes_go_to_nearest`: what a call does to the requests that were answered before it.
* `Context.routes_take_requests`: calls that take requests away.
-/

namespace ProtocolGateway

/-- A call that adds routes to one of the two tables. -/
structure RouteCall where
  entrance : Gateway.Entrance
  routes : Table Handler

namespace RouteCall

variable {M : Type}

/-- Makes the call. -/
def make (call : RouteCall) (c : Context M) : Context M × Outcome :=
  match call.entrance with
  | .primary => c.routeHttp call.routes
  | .secondary => c.routeGateway call.routes

/-- Makes some calls, and goes on when one is refused. -/
def makeAll (calls : List RouteCall) (c : Context M) : Context M :=
  calls.foldl (fun c call => (call.make c).1) c

end RouteCall

namespace Table

variable {α : Type} {t t' other : Table α}

/-- **A path without a pattern** keeps the endpoint of such paths when tables are put together. -/
theorem choose_merge_fallback (h : t.merge other = .ok t') {method : String} {path : List Char}
    {endpoint : α} (hbefore : t.choose method path = (none, .endpoint endpoint))
    (hafter : (t'.choose method path).1 = none) :
    t'.choose method path = (none, .endpoint endpoint) := by
  have hfallback : t.fallback = some endpoint := by
    rw [choose] at hbefore
    cases hfound : t.find? path with
    | some r => rw [hfound] at hbefore; cases congrArg Prod.fst hbefore
    | none =>
      rw [hfound] at hbefore
      cases hnone : t.fallback with
      | none => rw [hnone] at hbefore; cases hbefore
      | some x => rw [hnone] at hbefore; cases hbefore; rfl
  rw [choose] at hafter ⊢
  cases hfound : t'.find? path with
  | some r => rw [hfound] at hafter; cases hafter
  | none => rw [fallback_merge h, hfallback]; rfl

end Table

namespace Context

variable {M : Type} {c c' : Context M} {call : RouteCall}

/-- The table that is behind an entrance. -/
def table (c : Context M) : Gateway.Entrance → Table Handler
  | .primary => c.http
  | .secondary => c.gateway

/-! ### One call -/

/-- All that a call can do. -/
theorem make_cases (call : RouteCall) (c : Context M) :
    (∃ t, (c.table call.entrance).merge call.routes = .ok t ∧ (call.make c).2 = .done ∧
      (call.make c).1.table call.entrance = t ∧
      ∀ entrance, entrance ≠ call.entrance → (call.make c).1.table entrance = c.table entrance) ∨
    ∃ clash : RouteClash, (c.table call.entrance).merge call.routes = .error clash ∧
      call.make c = (c, .failed (.routes clash.message)) := by
  obtain ⟨entrance, routes⟩ := call
  cases entrance with
  | primary =>
    cases hmerge : c.http.merge routes with
    | ok t =>
      have hmake : RouteCall.make ⟨.primary, routes⟩ c = ({ c with http := t }, .done) := by
        rw [RouteCall.make, routeHttp, hmerge]
      rw [hmake]
      refine .inl ⟨t, hmerge, rfl, rfl, fun entrance hne => ?_⟩
      cases entrance with
      | primary => exact absurd rfl hne
      | secondary => rfl
    | error clash => exact .inr ⟨clash, hmerge, by rw [RouteCall.make, routeHttp, hmerge]⟩
  | secondary =>
    cases hmerge : c.gateway.merge routes with
    | ok t =>
      have hmake : RouteCall.make ⟨.secondary, routes⟩ c = ({ c with gateway := t }, .done) := by
        rw [RouteCall.make, routeGateway, hmerge]
      rw [hmake]
      refine .inl ⟨t, hmerge, rfl, rfl, fun entrance hne => ?_⟩
      cases entrance with
      | primary => rfl
      | secondary => exact absurd rfl hne
    | error clash => exact .inr ⟨clash, hmerge, by rw [RouteCall.make, routeGateway, hmerge]⟩

/-- In neither table a pattern has two routes. -/
def Distinct (c : Context M) : Prop := ∀ entrance, (c.table entrance).Distinct

theorem Distinct.make (h : c.Distinct) (call : RouteCall) : (call.make c).1.Distinct := by
  intro entrance
  rcases make_cases call c with ⟨t, hmerge, -, ht, hothers⟩ | ⟨clash, -, hmake⟩
  · by_cases hentrance : entrance = call.entrance
    · rw [hentrance, ht]
      exact (Table.joins_merge (h call.entrance) hmerge).distinct
    · rw [hothers entrance hentrance]
      exact h entrance
  · rw [hmake]
    exact h entrance

/-! ### Calls in a row -/

theorem Distinct.makeAll (h : c.Distinct) (calls : List RouteCall) :
    (RouteCall.makeAll calls c).Distinct := by
  induction calls generalizing c with
  | nil => exact h
  | cons call calls ih => exact ih (h.make call)

/-- **What a call does to the requests that were answered before it**, after any other calls. -/
theorem routes_go_to_nearest {c : Context M} (hhttp : c.http = {}) (hgateway : c.gateway = {})
    (earlier : List RouteCall) (call : RouteCall) :
    let before := RouteCall.makeAll earlier c
    let after := (call.make before).1
    ((call.make before).2 ≠ .done → after = before) ∧
    (∀ entrance, entrance ≠ call.entrance → after.table entrance = before.table entrance) ∧
    ((call.make before).2 = .done → ∀ method path handler,
      (∀ text, (before.table call.entrance).choose method path = (some text, .endpoint handler) →
        ((after.table call.entrance).choose method path).1 = some text →
        let own := Table.endpointsAt text (before.table call.entrance).routes
        let added := Table.endpointsAt text call.routes.routes
        added.distance method ≠ own.distance method ∧
          ∃ answering,
            (after.table call.entrance).choose method path = (some text, .endpoint answering) ∧
            if added.distance method < own.distance method then
              added.find? method = some answering
            else answering = handler) ∧
      ((before.table call.entrance).choose method path = (none, .endpoint handler) →
        ((after.table call.entrance).choose method path).1 = none →
        (after.table call.entrance).choose method path = (none, .endpoint handler))) := by
  intro before after
  have hempty : c.Distinct := by
    intro entrance
    cases entrance with
    | primary => rw [table, hhttp]; exact Table.distinct_empty
    | secondary => rw [table, hgateway]; exact Table.distinct_empty
  have hdistinct : (before.table call.entrance).Distinct := hempty.makeAll earlier call.entrance
  rcases make_cases call before with ⟨t, hmerge, hdone, ht, hothers⟩ | ⟨clash, -, hmake⟩
  · refine ⟨fun h => absurd hdone h, hothers, fun _ method path handler => ⟨?_, ?_⟩⟩
    · intro text hbefore hafter
      rw [ht] at hafter ⊢
      exact Table.choose_merge hdistinct hmerge hbefore hafter
    · intro hbefore hafter
      rw [ht] at hafter ⊢
      exact Table.choose_merge_fallback hmerge hbefore hafter
  · refine ⟨fun _ => congrArg Prod.fst hmake, fun entrance _ => ?_, fun hdone => ?_⟩
    · rw [show after = before from congrArg Prod.fst hmake]
    · rw [hmake] at hdone
      cases hdone

/-! ### Calls that meet at a pattern -/

/-- A pattern to register routes with. -/
def samplePattern : Pattern := ⟨"/a".toList, ['/', 'a'].map .literal, rfl⟩

/-- The call that adds endpoints for the pattern to the primary table. -/
def sampleCall (endpoints : Endpoints Handler) : RouteCall :=
  ⟨.primary, { routes := [⟨samplePattern, endpoints⟩] }⟩

/-- An endpoint for all other methods joins one for GET, and requests with GET stay with that. -/
theorem routes_go_to_nearest_get :
    let before := RouteCall.makeAll [sampleCall (.one .get healthHandler)]
      ({} : Context BuiltInModule)
    let after := (sampleCall (.all infoHandler)).make before
    after.2 = .done ∧
      after.1.http.choose "GET" "/a".toList = (some "/a".toList, .endpoint healthHandler) ∧
      ((sampleCall (.one .get infoHandler)).make before).1 = before := by
  intro before after
  obtain ⟨-, -, hkept⟩ := routes_go_to_nearest (c := ({} : Context BuiltInModule)) rfl rfl
    [sampleCall (.one .get healthHandler)] (sampleCall (.all infoHandler))
  obtain ⟨hrefused, -⟩ := routes_go_to_nearest (c := ({} : Context BuiltInModule)) rfl rfl
    [sampleCall (.one .get healthHandler)] (sampleCall (.one .get infoHandler))
  obtain ⟨-, answering, hanswering, hnearer⟩ :=
    (hkept rfl "GET" "/a".toList healthHandler).1 "/a".toList rfl rfl
  rw [if_neg (by decide +kernel)] at hnearer
  exact ⟨rfl, hnearer ▸ hanswering, hrefused nofun⟩

/-- The first call adds endpoints for the pattern, and the second one others, which is not refused;
but a request that the first one answered is answered by the second one then. -/
def TakesRequest (first second : Endpoints Handler) (method : String) : Prop :=
  let before := (sampleCall first).make ({} : Context BuiltInModule)
  let after := (sampleCall second).make before.1
  before.2 = .done ∧ after.2 = .done ∧
    ∃ own other, own ≠ other ∧
      before.1.http.choose method "/a".toList = (some "/a".toList, .endpoint own) ∧
      after.1.http.choose method "/a".toList = (some "/a".toList, .endpoint other)

/-- **Calls that take requests away**: from an endpoint for all other methods, and from that of GET,
which answers HEAD. -/
theorem routes_take_requests :
    TakesRequest (.all healthHandler) (.one .get infoHandler) "GET" ∧
    TakesRequest (.all healthHandler) (.one .get infoHandler) "HEAD" ∧
    TakesRequest (.one .get healthHandler) (.one .head infoHandler) "HEAD" := by
  have hne : healthHandler ≠ infoHandler := by
    intro h
    have hstatus := congrArg (fun handler : Handler => (handler {}
      ({ method := "GET", uri := ⟨none, none, ⟨['/'], none⟩⟩ } : Request).toCall).response.status) h
    exact absurd hstatus (by decide)
  exact ⟨⟨rfl, rfl, _, _, hne, rfl, rfl⟩, ⟨rfl, rfl, _, _, hne, rfl, rfl⟩,
    ⟨rfl, rfl, _, _, hne, rfl, rfl⟩⟩

end Context

end ProtocolGateway

import ProtocolGateway.BuiltIn.Operations
import ProtocolGateway.Proofs.Http.Admission

/-!
# Health checks

A health check is a GET request whose path leads to the handler for health checks. The layers of the
primary stack hand it to the handler, unless there is no time at all or a body is announced that is
longer than allowed, and what the handler tells of readiness gets through them unchanged.

## Main definitions

* `Response.Tells`: the response that a health check gets in a state.
* `Stacks.ChecksHealth`: which requests are health checks.

## Main results

* `Stacks.primary_tells`: a health check that gets through is answered with the readiness.
-/

namespace ProtocolGateway

/-- The body that names a state. -/
def Readiness.document (r : Readiness) : Bytes := (Json.obj [("status", .str r.name)]).toBytes

/-- The response says that the process is ready, or names the state in which it is instead. -/
structure Response.Tells (r : Readiness) (response : Response) : Prop where
  ready_iff : response.status = 200 ∧ response.body = Readiness.ready.document ↔ r = .ready
  otherwise : r ≠ .ready → response.status = 503 ∧ response.body = r.document

/-- Status and body are all that matters. -/
theorem Response.tells_of_eq {r : Readiness} {response : Response}
    (hstatus : response.status = r.status) (hbody : response.body = r.document) :
    response.Tells r := by
  cases r with
  | ready => exact ⟨⟨fun _ => rfl, fun _ => ⟨hstatus, hbody⟩⟩, fun h => absurd rfl h⟩
  | starting =>
    refine ⟨⟨fun h => ?_, fun h => nomatch h⟩, fun _ => ⟨hstatus, hbody⟩⟩
    rw [hstatus] at h
    exact absurd h.1 (by decide)
  | draining =>
    refine ⟨⟨fun h => ?_, fun h => nomatch h⟩, fun _ => ⟨hstatus, hbody⟩⟩
    rw [hstatus] at h
    exact absurd h.1 (by decide)

/-- The handler tells the readiness of the process. -/
theorem tells_healthHandler (live : Live) (request : Request) :
    (healthHandler.service live request).response.Tells live.readiness :=
  Response.tells_of_eq rfl rfl

namespace Stacks

variable {g : Stacks} {request : Request}

/-- The request is a GET request whose path leads to the handler for health checks. -/
def ChecksHealth (g : Stacks) (request : Request) : Prop :=
  request.method = Verb.get.name ∧
    (g.front.choose request.method request.uri.path).2 = .endpoint (.handler healthHandler)

/-- **A health check that gets through is answered with the readiness**, and one that does not is
refused for its time or its length. -/
theorem primary_tells (h : g.ChecksHealth request) (live : Live) (ids : FreshIds) :
    (g.Admits request → (g.primary live ids request).response.Tells live.readiness) ∧
    (¬g.Admits request → (g.primary live ids request).response.status = 408 ∨
      (g.primary live ids request).response.status = 413) := by
  obtain ⟨hmethod, hhealth⟩ := h
  rcases hchoose : g.front.choose request.method request.uri.path with ⟨route, choice⟩
  obtain rfl : choice = .endpoint (.handler healthHandler) := by rwa [hchoose] at hhealth
  refine ⟨fun hadmits => ?_, fun hrefused => ?_⟩
  swap
  · have hstatus : (g.primary live ids request).response.status = _ :=
      status_primaryWith_of_not_admits hrefused _
    rw [hstatus]
    split
    · exact .inr rfl
    · exact .inl rfl
  have hintime : (g.endpointService live ids (.handler healthHandler)
      ((request.enter route).admitted ids.primary g.maxBodyBytes)).delay < g.requestMs :=
    hadmits.time
  rw [response_primary hchoose hadmits, hmethod, Reply.within, if_pos hintime]
  exact Response.tells_of_eq Response.status_fitMethod Response.body_fitMethod_get

end Stacks

end ProtocolGateway

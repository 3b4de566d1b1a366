import ProtocolGateway.Proofs.BuiltIn.Front
import ProtocolGateway.Proofs.Http.Reaching
import ProtocolGateway.Proofs.Startup.FailFast
import ProtocolGateway.Proofs.Startup.Launched

/-!
# Which handlers a process has

A process has the handlers that its modules added, and no others. So what is known of all that
modules may add is known of every handler that a request gets to. The built-in modules add two.

## Main definitions

* `Context.Serves`: all handlers of a context have a property.
* `Bootable.Adds`: modules add handlers with a property only.

## Main results

* `Context.handler_of_launch`: a request gets to a handler that a module has added.
* `BuiltInModule.adds`: what the built-in modules add.
-/

namespace ProtocolGateway

variable {M : Type} {P : Handler → Prop}

/-- All handlers in the route tables of a context have a property. -/
structure Context.Serves (P : Handler → Prop) (c : Context M) : Prop where
  http : c.http.All P
  gateway : c.gateway.All P

/-- The modules of a type add handlers with a property only. -/
def Bootable.Adds (M : Type) [Bootable M] (P : Handler → Prop) : Prop :=
  ∀ (phase : Phase) (m : M) (c : Context M),
    c.Serves P → (Bootable.operate phase m c).2.1.Serves P

/-! ### Bringing modules up -/

section run

variable [Bootable M] {s s' : Booting M}

theorem Performed.Takes.serves (hadds : Bootable.Adds M P) {p : Performed M} {outcome : Outcome}
    (h : p.Takes s s' outcome) (hs : s.context.Serves P) : s'.context.Serves P := by
  obtain ⟨m, m', -, -, hoperate⟩ := h.operate
  have hafter := hadds p.operation.phase m (s.context.record
    (.operation p.operation.phase p.operation.index s.context.readiness)) ⟨hs.http, hs.gateway⟩
  rw [hoperate] at hafter
  exact hafter

theorem Completes.serves (hadds : Bootable.Adds M P) {ran : List (Performed M)}
    (h : Completes ran s s') (hs : s.context.Serves P) : s'.context.Serves P := by
  induction h with
  | nil => exact hs
  | cons first _ ih => exact ih (first.serves hadds hs)

theorem Runs.serves (hadds : Bootable.Adds M P) {operations : List Operation}
    {ran : List (Performed M)} {halt : Option Halt} (h : Runs operations s ran s' halt)
    (hs : s.context.Serves P) : s'.context.Serves P := by
  cases h with
  | completed hall _ => exact hall.serves hadds hs
  | stopped hbefore hundone _ _ _ => exact hundone.serves hadds (hbefore.serves hadds hs)

/-- **Bringing modules up** leaves no handlers but theirs. -/
theorem Context.serves_bootstrap [Orderly M] (hadds : Bootable.Adds M P) {c : Context M}
    (hc : c.Serves P) : c.bootstrap.1.Serves P := by
  obtain ⟨ran, last, hruns, hkeeps, -⟩ := c.exists_runs_bootstrap
  have hlast : last.context.Serves P := hruns.serves hadds ⟨hc.http, hc.gateway⟩
  have hhttp := congrArg Context.http hkeeps.rest
  have hgateway := congrArg Context.gateway hkeeps.rest
  exact ⟨hhttp ▸ hlast.http, hgateway ▸ hlast.gateway⟩

end run

/-! ### The stacks -/

namespace Stacks

variable {g : Stacks} {ids : FreshIds} {entrance : Gateway.Entrance} {request : Request}
variable {fresh : Bytes} {handler : Handler} {call : Call}

theorem handler_of_backReached (hback : g.back.All P)
    (h : g.backReached? fresh request = some (handler, call)) : P handler := by
  rw [backReached?] at h
  split at h
  · next route chosen hchoose =>
    split at h
    · cases h
      exact hback.choose (congrArg Prod.snd hchoose)
    · cases h
  · cases h

theorem handler_of_frontReached
    (hfront : g.front.All fun endpoint => ∀ handler, endpoint = .handler handler → P handler)
    (h : g.frontReached? fresh request = some (handler, call)) : P handler := by
  rw [frontReached?] at h
  split at h
  · next route chosen hchoose =>
    split at h
    · cases h
      exact hfront.choose (congrArg Prod.snd hchoose) handler rfl
    · cases h
  · cases h

/-- **A request gets to a handler of the tables** of which the stacks were built. -/
theorem handler_of_reached {s : Settings} {http gateway : Table Handler}
    (hbuild : build? s http gateway = some g) (hhttp : http.All P) (hgateway : gateway.All P)
    (h : g.reached? ids entrance request = some (handler, call)) : P handler := by
  obtain ⟨forwarding, hforwarding, hmerge, hback, -⟩ := build?_eq_some hbuild
  rw [← hback] at hgateway
  cases entrance with
  | secondary => exact handler_of_backReached hgateway h
  | primary =>
    rw [reached?] at h
    split at h
    · exact handler_of_backReached hgateway h
    · refine handler_of_frontReached (Table.All.merge ?_ ?_ hmerge) h
      · exact hhttp.map fun own hown handler hsame => by cases hsame; exact hown
      · refine Table.all_ofEntries (fun e he handler hsame => ?_) hforwarding
        obtain ⟨tail, -, rfl⟩ := List.mem_map.1 he
        cases hsame

end Stacks

/-- **A request gets to a handler that a module has added**, or that was there before. -/
theorem Context.handler_of_launch [Bootable M] [Orderly M] (hadds : Bootable.Adds M P)
    {c : Context M} {g : Gateway M} (hc : c.Serves P) (hlaunch : c.launch.2 = .ok g)
    {ids : FreshIds} {entrance : Gateway.Entrance} {request : Request} {handler : Handler}
    {call : Call} (h : g.serving.reached? ids entrance request = some (handler, call)) :
    P handler := by
  obtain ⟨-, hserve⟩ := launch_eq_ok (Prod.ext rfl hlaunch)
  obtain ⟨-, hbuild, -⟩ := serve_eq_ok hserve
  have hserves := serves_bootstrap hadds hc
  exact Stacks.handler_of_reached hbuild hserves.http hserves.gateway h

/-! ### The built-in modules -/

namespace Context

variable {c : Context M}

theorem serves_routeHttp {routes : Table Handler} (h : c.Serves P) (hroutes : routes.All P) :
    (c.routeHttp routes).1.Serves P := by
  rw [routeHttp]
  split
  · next http hmerge => exact ⟨h.http.merge hroutes hmerge, h.gateway⟩
  · exact h

theorem serves_routeGateway {routes : Table Handler} (h : c.Serves P) (hroutes : routes.All P) :
    (c.routeGateway routes).1.Serves P := by
  rw [routeGateway]
  split
  · next gateway hmerge => exact ⟨h.http, h.gateway.merge hroutes hmerge⟩
  · exact h

theorem serves_setTelemetry (hook : Hook) (h : c.Serves P) : (c.setTelemetry hook).Serves P := by
  rw [setTelemetry]
  split <;> exact ⟨h.http, h.gateway⟩

/-- The ways in which modules change a context bring no handlers but theirs. -/
theorem respected_serves :
    Respected P fun c c' : Context M => c.Serves P → c'.Serves P where
  refl _ h := h
  trans h h' hc := h' (h hc)
  routeHttp _ ht h := serves_routeHttp h ht
  routeGateway _ ht h := serves_routeGateway h ht
  listen _ _ h := ⟨h.http, h.gateway⟩
  setTelemetry hook _ h := serves_setTelemetry hook h
  startExporter _ _ _ h := ⟨h.http, h.gateway⟩
  note _ _ h := ⟨h.http, h.gateway⟩

end Context

/-- **The built-in modules** add the handlers of health checks and of information on the process. -/
theorem BuiltInModule.adds :
    Bootable.Adds BuiltInModule fun h => h = healthHandler ∨ h = infoHandler :=
  respects Context.respected_serves (.inl rfl) (.inr rfl)

end ProtocolGateway

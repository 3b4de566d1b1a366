import ProtocolGateway.Proofs.Route.Members
import ProtocolGateway.Rehearsal.Script

/-!
# How modules change a context

There are a few ways in which the operations of modules change the context: they add routes, they
listen, they leave something to be stopped, they log. What is true of the context before and after
each of those is true of the context before and after a whole operation. So the operations are gone
through once, here, and a fact about them is shown by looking at these ways only.

## Main definitions

* `Context.Respected`: a relation of contexts that these ways respect.

## Main results

* `BuiltInModule.respects`: the operations of the built-in modules respect it as well.
* `Action.respects_performAll`: so do scripts whose actions do.
-/

namespace ProtocolGateway

namespace Context

variable {M : Type} {P : Handler → Prop} {Rel : Context M → Context M → Prop} {c : Context M}

/-- Setting the flag is shown by the metrics and the log, and changes nothing else. -/
theorem exists_setReadiness_eq (value : Bool) (c : Context M) :
    ∃ metrics log output, c.setReadiness value =
      { c with readiness := (c.readiness.set value).1, metrics, log, output } := by
  rw [setReadiness]
  cases value <;> cases c.readiness <;> exact ⟨_, _, _, rfl⟩

/-- A relation of a context and one that comes out of it, which the ways in which modules change a
context respect, if they add handlers with a property only. -/
structure Respected (P : Handler → Prop) (Rel : Context M → Context M → Prop) : Prop where
  refl : ∀ c, Rel c c
  trans : ∀ {c c' c''}, Rel c c' → Rel c' c'' → Rel c c''
  routeHttp : ∀ {t : Table Handler} (c : Context M), t.All P → Rel c (c.routeHttp t).1
  routeGateway : ∀ {t : Table Handler} (c : Context M), t.All P → Rel c (c.routeGateway t).1
  listen : ∀ (l : SettingsListener) (c : Context M), Rel c (c.listen l)
  setTelemetry : ∀ (h : Hook) (c : Context M), Rel c (c.setTelemetry h)
  startExporter : ∀ (host : Host) (e : Log.Event) (c : Context M),
    Rel c ({ c with recording := true, host }.logs e)
  note : ∀ (text : String) (c : Context M), Rel c (c.note text)

namespace Respected

/-! ### Built-in modules -/

theorem exportMetrics (h : Respected P Rel) (c : Context M) : Rel c c.exportMetrics.1 := by
  rw [Context.exportMetrics]
  split
  · exact h.refl c
  · split
    · exact h.refl c
    · rw [Context.startExporter]
      split
      · exact h.refl c
      · split
        · exact h.refl c
        · exact h.trans (h.startExporter _ _ c) (h.setTelemetry exporterHook _)

theorem routeHealth (h : Respected P Rel) (hhealth : P healthHandler) (c : Context M) :
    Rel c c.routeHealth.1 := by
  rw [Context.routeHealth]
  split
  · exact h.refl c
  · next routes hroutes =>
    exact h.routeHttp c (Table.all_ofEntries (List.forall_mem_singleton.2 hhealth) hroutes)

/-- Going on after a change with another one. -/
theorem andThen (h : Respected P Rel) {next : Context M → Context M × Outcome}
    {made : Context M × Outcome} (hmade : Rel c made.1) (hnext : ∀ c, Rel c (next c).1) :
    Rel c (Context.andThen next made).1 := by
  obtain ⟨c', outcome⟩ := made
  cases outcome with
  | done => exact h.trans hmade (hnext c')
  | failed _ => exact hmade
  | crashed => exact hmade

theorem routeInfo (h : Respected P Rel) (hinfo : P infoHandler) (c : Context M) :
    Rel c c.routeInfo.1 := by
  rw [Context.routeInfo]
  split
  · next http gateway hhttp hgateway =>
    have hall {path : List Char} {t : Table Handler} (ht : Table.get? path infoHandler = some t) :
        t.All P := Table.all_ofEntries (List.forall_mem_singleton.2 hinfo) ht
    refine h.andThen (h.andThen (h.routeHttp c (hall hhttp)) fun c => ?_) fun c => ?_
    · exact h.routeGateway c (hall hgateway)
    · exact h.listen .announcement c
  · exact h.refl c

end Respected

end Context

/-- **The operations of the built-in modules** respect what the ways of changing a context do. -/
theorem BuiltInModule.respects {M : Type} {P : Handler → Prop}
    {Rel : Context M → Context M → Prop} (h : Context.Respected P Rel) (hhealth : P healthHandler)
    (hinfo : P infoHandler) (phase : Phase) (m : BuiltInModule) (c : Context M) :
    Rel c (m.operate phase c).2.1 := by
  obtain ⟨kind, started⟩ := m
  cases kind <;> cases phase <;> try exact h.refl c
  · exact h.exportMetrics c
  · exact h.routeHealth hhealth c
  · cases started with
    | false => exact h.refl c
    | true => exact h.routeInfo hinfo c

/-! ### Scripted modules -/

namespace Action

variable {P : Handler → Prop} {Rel : Context RehearsalModule → Context RehearsalModule → Prop}

theorem respects_addRoutes (h : Context.Respected P Rel) {c : Context RehearsalModule}
    {add : Table Handler → Context RehearsalModule → Context RehearsalModule × Outcome}
    (hadd : ∀ {t : Table Handler}, t.All P → Rel c (add t c).1)
    {routes : List (RouteEntry Handler)} (hroutes : ∀ e ∈ routes, P e.endpoint) (catches : Bool) :
    Rel c (c.addRoutes add routes catches).1 := by
  rw [Context.addRoutes]
  split
  · exact h.refl c
  · next table htable =>
    have hadded := hadd (Table.all_ofEntries hroutes htable)
    split
    · rcases hmade : add table c with ⟨c', outcome⟩
      rw [hmade] at hadded
      cases outcome with
      | done => exact hadded
      | failed e => exact h.trans hadded (h.note _ c')
      | crashed => exact hadded
    · exact hadded

/-- **Scripts** respect what their actions do. -/
theorem respects_performAll (h : Context.Respected P Rel) {actions : List Action}
    (hactions : ∀ a ∈ actions, ∀ c, Rel c (a.perform c).1) (c : Context RehearsalModule) :
    Rel c (performAll c actions).1 := by
  induction actions generalizing c with
  | nil => exact h.refl c
  | cons a rest ih =>
    obtain ⟨ha, hrest⟩ := List.forall_mem_cons.1 hactions
    have hfirst := ha c
    rw [performAll]
    split
    · next c' hperform =>
      rw [hperform] at hfirst
      exact h.trans hfirst (ih hrest c')
    · next c' outcome _ hperform =>
      rw [hperform] at hfirst
      exact hfirst

end Action

end ProtocolGateway

import ProtocolGateway.Proofs.Http.HealthCheck
import ProtocolGateway.Proofs.Readiness.Quiet
import ProtocolGateway.Proofs.Reload.Delivery
import ProtocolGateway.Proofs.Startup.FailFast
import ProtocolGateway.Proofs.Startup.Launched
import ProtocolGateway.Teardown.Shutdown

/-!
# Readiness in the course of a run

A run is a launch, then what happens while the process serves, then the shutdown and all that comes
after it. If modules leave the readiness flag alone, the process itself sets it twice only: at the
end of a launch, and at the beginning of the shutdown. So the process is starting while its modules
come up, ready from one of these moments to the other, and draining from then on, whoever sets the
flag later.

## Main definitions

* `ClosingStep`: what may happen to a process whose shutdown has begun.

## Main results

* `Context.readiness_bootstrap`, `Gateway.readiness_serveAll`, `Gateway.readiness_close`: the three
  parts of a run.
* `Gateway.closes_shutdown`: the shutdown takes such steps only.
* `Context.readiness_of_run`: the whole run.
-/

namespace ProtocolGateway

namespace Context

variable {M : Type}

theorem readiness_foldl {α : Type} {f : Context M → α → Context M}
    (h : ∀ c a, (f c a).readiness = c.readiness) (l : List α) (c : Context M) :
    (l.foldl f c).readiness = c.readiness := by
  induction l generalizing c with
  | nil => rfl
  | cons a rest ih => rw [List.foldl_cons, ih, h]

/-- Beginning to serve sets the flag, and does nothing else to it. -/
theorem readiness_ready (address : SocketAddress) (serving : Stacks) (c : Context M) :
    (c.ready address serving).readiness = (c.readiness.set true).1 := by
  obtain ⟨tasks, metrics, log, output, hready⟩ := exists_ready_eq address serving c
  rw [hready]

/-- Nothing is noted down of operations and teardown steps when a process begins to serve. -/
theorem extends_ready (address : SocketAddress) (serving : Stacks) (c : Context M) :
    c.Extends (c.ready address serving) := by
  obtain ⟨tasks, metrics, log, output, hready⟩ := exists_ready_eq address serving c
  rw [hready]
  exact .of_eq rfl rfl

/-- The entries of the journal on settings are not about operations or teardown steps. -/
theorem extends_deliver [Log.Patterns] (listeners : List SettingsListener) (s : Settings)
    (c : Context M) :
    c.Extends (c.deliver listeners s) := by
  have hmodules : c.lasting.modules <+: (c.deliver listeners s).lasting.modules :=
    lasting_deliver listeners s c ▸ List.prefix_refl _
  have hnone : (deliveries listeners s).filter (·.seen?.isSome) = [] := by
    rw [List.filter_eq_nil_iff]
    intro h hh
    obtain ⟨⟨l, i⟩, -, rfl⟩ := List.mem_map.1 hh
    exact Bool.false_ne_true
  refine ⟨hmodules, ?_⟩
  rw [sightings, journal_deliver, List.filter_append, hnone, List.append_nil, sightings]

end Context

/-! ### Bringing modules up -/

/-- The entry of the journal for an operation. -/
def Operation.begun (seen : Readiness) (o : Operation) : Happening :=
  .operation o.phase o.index seen

section run

variable {M : Type} [Bootable M] {Kind : M → Prop} {s s' : Booting M}

theorem Performed.Takes.readiness (hkind : LeavesReadiness Kind) {p : Performed M}
    {outcome : Outcome} (h : p.Takes s s' outcome) (hs : ∀ m ∈ s.modules, Kind m) :
    (∀ m ∈ s'.modules, Kind m) ∧ s'.context.readiness = s.context.readiness := by
  obtain ⟨m, m', hplace, hset, hoperate⟩ := h.operate
  have hleaves := hkind.operate p.operation.phase (s.context.record
    (.operation p.operation.phase p.operation.index s.context.readiness))
      (hs m (List.mem_of_getElem? hplace))
  rw [hoperate] at hleaves
  obtain ⟨hm', hreadiness⟩ := hleaves
  refine ⟨fun n hn => ?_, hreadiness⟩
  rw [hset] at hn
  rcases List.mem_or_eq_of_mem_set hn with hn | rfl
  · exact hs n hn
  · exact hm'

variable [Orderly M]

theorem Completes.readiness (hkind : LeavesReadiness Kind) {ran : List (Performed M)}
    (h : Completes ran s s') (hs : ∀ m ∈ s.modules, Kind m) :
    (∀ m ∈ s'.modules, Kind m) ∧ s'.context.readiness = s.context.readiness ∧
      s'.context.sightings =
        s.context.sightings ++ ran.map (·.operation.begun s.context.readiness) := by
  induction h with
  | nil => exact ⟨hs, rfl, (List.append_nil _).symm⟩
  | cons hfirst _ ih =>
    obtain ⟨hs₁, hreadiness⟩ := hfirst.readiness hkind hs
    obtain ⟨hs', hrest, hsightings⟩ := ih hs₁
    refine ⟨hs', hrest.trans hreadiness, ?_⟩
    rw [hsightings, hfirst.sightings, hreadiness, List.append_assoc]
    rfl

/-- All operations of a run see the readiness that there was when it began. -/
theorem Runs.readiness (hkind : LeavesReadiness Kind) {operations : List Operation}
    {ran : List (Performed M)} {halt : Option Halt} (h : Runs operations s ran s' halt)
    (hs : ∀ m ∈ s.modules, Kind m) :
    s'.context.readiness = s.context.readiness ∧
      s'.context.sightings =
        s.context.sightings ++ ran.map (·.operation.begun s.context.readiness) := by
  cases h with
  | completed hall _ => exact (hall.readiness hkind hs).2
  | stopped hbefore hundone _ _ _ =>
    obtain ⟨hs₁, hreadiness, hsightings⟩ := hbefore.readiness hkind hs
    refine ⟨(hundone.readiness hkind hs₁).2.trans hreadiness, ?_⟩
    rw [hundone.sightings, hsightings, hreadiness, List.append_assoc, List.map_append]
    rfl

namespace Context

/-- **Bringing modules up** leaves the flag alone, whatever comes of it, and each operation sees it
as it was. -/
theorem readiness_bootstrap (hkind : LeavesReadiness Kind) (c : Context M)
    (hc : ∀ m ∈ c.modules, Kind m) :
    c.bootstrap.1.readiness = c.readiness ∧
      ∃ ran : List Operation,
        c.bootstrap.1.sightings = c.sightings ++ ran.map (·.begun c.readiness) := by
  obtain ⟨ran, last, hruns, hkeeps, -⟩ := c.exists_runs_bootstrap
  obtain ⟨hreadiness, hsightings⟩ := hruns.readiness hkind hc
  refine ⟨?_, ran.map (·.operation), ?_⟩
  · have hsame := congrArg Context.readiness hkeeps.rest
    exact hsame.trans hreadiness
  · have hsame := congrArg Context.sightings hkeeps.rest
    rw [List.map_map]
    exact hsame.trans hsightings

end Context

end run

/-! ### Serving -/

namespace Gateway

variable {M : Type}

theorem readiness_notice [Log.Patterns] (e : FileEvent) (g : Gateway M) :
    (g.notice e).context.readiness = g.context.readiness := by
  obtain ⟨c, watch, hnotice, hlasting⟩ := exists_notice_eq e g
  have hreadiness := congrArg Context.readiness hlasting
  rw [hnotice]
  exact hreadiness

theorem extends_notice [Log.Patterns] (e : FileEvent) (g : Gateway M) :
    g.context.Extends (g.notice e).context := by
  rw [notice]
  split
  · exact .refl _
  · next w _ =>
    split
    · exact .refl _
    · have hnoticed : g.context.Extends
          ((w.file.notices e).foldl (fun c event => c.logs event) g.context) := by
        rw [Context.foldl_logs_eq]
        exact .of_eq rfl rfl
      dsimp only
      split
      · exact hnoticed.trans (.of_eq rfl rfl)
      · split
        · exact hnoticed
        · exact hnoticed.trans (Context.extends_deliver _ _ _)

/-- What happens to a process that serves does not touch the flag, unless somebody sets it. -/
theorem readiness_occur [Log.Patterns] (o : Occurrence) (g : Gateway M) :
    (g.occur o).1.context.readiness = match o with
      | .ready value => (g.context.readiness.set value).1
      | _ => g.context.readiness := by
  cases o with
  | request entrance ids request => rfl
  | file event => exact readiness_notice event g
  | ready value => exact Context.readiness_setReadiness value g.context
  | traffic step => rfl

theorem extends_occur [Log.Patterns] (o : Occurrence) (g : Gateway M) :
    g.context.Extends (g.occur o).1.context := by
  cases o with
  | request entrance ids request => exact .of_eq rfl rfl
  | file event => exact extends_notice event g
  | ready value => exact Context.extends_setReadiness value g.context
  | traffic step => exact .refl _

/-- **A process that serves** stays ready until somebody sets it to draining. -/
theorem readiness_serveAll [Log.Patterns] {occurrences : List Occurrence}
    (h : .ready false ∉ occurrences)
    {g : Gateway M} (hready : g.context.readiness = .ready) :
    (g.serveAll occurrences).1.context.readiness = .ready := by
  induction occurrences generalizing g with
  | nil => exact hready
  | cons o rest ih =>
    refine ih (fun hmem => h (List.mem_cons_of_mem o hmem)) ((readiness_occur o g).trans ?_)
    cases o with
    | ready value =>
      cases value with
      | true => rw [hready]; rfl
      | false => exact absurd List.mem_cons_self h
    | request => exact hready
    | file => exact hready
    | traffic => exact hready

theorem extends_serveAll [Log.Patterns] (occurrences : List Occurrence) (g : Gateway M) :
    g.context.Extends (g.serveAll occurrences).1.context := by
  induction occurrences generalizing g with
  | nil => exact .refl _
  | cons o rest ih => exact (extends_occur o g).trans (ih _)

end Gateway

/-! ### The shutdown and all that comes after it -/

/-- What may happen to a process whose shutdown has begun: the shutdown takes a step, or what
happens to processes that serve happens in between. -/
inductive ClosingStep where
  /-- What has to be stopped is taken out of the context. -/
  | takeHooks
  | tearDown (step : TeardownStep) (hook : Hook)
  | record (h : Happening)
  | log (e : Log.Event)
  | advance (steps : List TrafficStep)
  | cancel
  | settle
  | meanwhile (o : Occurrence)

namespace Gateway

variable {M : Type}

/-- Takes a step. -/
def takeStep [Log.Patterns] (g : Gateway M) : ClosingStep → Gateway M
  | .takeHooks => g.mapContext ({ · with telemetry := none, auxiliary := [], sinks := [] })
  | .tearDown step hook => g.mapContext (·.tearDown step hook)
  | .record h => g.mapContext (·.record h)
  | .log e => g.mapContext (·.logs e)
  | .advance steps => g.advance steps
  | .cancel => g.mapContext (·.cancel)
  | .settle => g.mapContext (·.settle)
  | .meanwhile o => (g.occur o).1

/-- The process when its shutdown has begun. -/
def withdraw (g : Gateway M) : Gateway M :=
  g.mapContext fun c => (c.logs (Stage.event .serving .draining)).setReadiness false

/-- The process after its shutdown has begun and some steps were taken. -/
def close [Log.Patterns] (steps : List ClosingStep) (g : Gateway M) : Gateway M :=
  steps.foldl takeStep g.withdraw

/-- A step does not touch the flag, unless somebody sets it. -/
theorem readiness_takeStep [Log.Patterns] {g : Gateway M} (h : g.context.readiness = .draining)
    (step : ClosingStep) : (g.takeStep step).context.readiness = .draining := by
  cases step with
  | meanwhile o =>
    refine (readiness_occur o g).trans ?_
    cases o with
    | ready value => rw [h]; exact Readiness.set_draining value
    | request => exact h
    | file => exact h
    | traffic => exact h
  | takeHooks => exact h
  | tearDown => exact h
  | record => exact h
  | log => exact h
  | advance => exact h
  | cancel => exact h
  | settle => exact h

theorem readiness_takeSteps [Log.Patterns] (steps : List ClosingStep) {g : Gateway M}
    (h : g.context.readiness = .draining) :
    (steps.foldl takeStep g).context.readiness = .draining := by
  induction steps generalizing g with
  | nil => exact h
  | cons step rest ih => exact ih (readiness_takeStep h step)

theorem readiness_withdraw (g : Gateway M) : g.withdraw.context.readiness = .draining :=
  (Context.readiness_setReadiness false _).trans (Readiness.set_false _)

/-- **A process whose shutdown has begun** is draining, whatever happens. -/
theorem readiness_close [Log.Patterns] (steps : List ClosingStep) (g : Gateway M) :
    (g.close steps).context.readiness = .draining :=
  readiness_takeSteps steps g.readiness_withdraw

/-- Steps lead from one state of a process to another. -/
def Leads [Log.Patterns] (g g' : Gateway M) : Prop :=
  ∃ steps : List ClosingStep, steps.foldl takeStep g = g'

variable {g g' g'' : Gateway M}

theorem Leads.step [Log.Patterns] (step : ClosingStep) (g : Gateway M) :
    g.Leads (g.takeStep step) :=
  ⟨[step], rfl⟩

theorem Leads.trans [Log.Patterns] (h : g.Leads g') (h' : g'.Leads g'') : g.Leads g'' := by
  obtain ⟨steps, rfl⟩ := h
  obtain ⟨later, rfl⟩ := h'
  exact ⟨steps ++ later, List.foldl_append⟩

theorem leads_tearDown [Log.Patterns] (step : TeardownStep) (hooks : List Hook) (g : Gateway M) :
    g.Leads (g.mapContext (hooks.foldl (Context.tearDown step) ·)) := by
  induction hooks generalizing g with
  | nil => exact ⟨[], rfl⟩
  | cons hook rest ih => exact (Leads.step (.tearDown step hook) g).trans (ih _)

/-- All hooks are stopped one by one. -/
theorem leads_tearDownAll [Log.Patterns] (g : Gateway M) :
    g.Leads (g.mapContext (·.tearDownAll)) := by
  refine (Leads.step .takeHooks g).trans ?_
  refine (leads_tearDown .telemetry g.context.telemetry.toList _).trans ?_
  refine (leads_tearDown .auxiliary g.context.auxiliary _).trans ?_
  exact leads_tearDown .logSink g.context.sinks _

theorem leads_drain [Log.Patterns] (meanwhile : List TrafficStep) (g : Gateway M) :
    g.Leads (g.drain meanwhile) := by
  have hfinished : (g.advance g.drainSteps).Leads (if g.context.cancelled then
      g.advance g.drainSteps else (g.advance g.drainSteps).advance meanwhile) := by
    split
    · exact ⟨[], rfl⟩
    · exact .step (.advance meanwhile) _
  refine (Leads.step (.advance g.drainSteps) g).trans ?_
  exact hfinished.trans (.step (.advance g.deadlineSteps) _)

/-- The process when all hooks were stopped and no more connections are accepted. -/
def halt (g : Gateway M) : Gateway M :=
  (g.withdraw.mapContext (·.tearDownAll)).mapContext (·.record .stoppedAccepting)

/-- The process when its servers have drained. -/
def drained (meanwhile : List TrafficStep) (g : Gateway M) : Gateway M :=
  (g.halt.mapContext (·.logs g.halt.drainEvent)).drain meanwhile

/-- The end of a shutdown, after the servers have drained. -/
def finish (report : ShutdownReport) (g : Gateway M) : Gateway M :=
  g.mapContext fun c => ((((c.record (.drained report.drains)).cancel).settle).logs
    (Stage.event .draining .stopped)).logs (completeEvent report)

theorem shutdown_eq (meanwhile : List TrafficStep) (g : Gateway M) :
    (g.shutdown meanwhile).1 = (g.drained meanwhile).finish (g.shutdown meanwhile).2 := rfl

theorem leads_halt [Log.Patterns] (g : Gateway M) : g.withdraw.Leads g.halt :=
  (leads_tearDownAll _).trans (.step (.record .stoppedAccepting) _)

theorem leads_drained [Log.Patterns] (meanwhile : List TrafficStep) (g : Gateway M) :
    g.halt.Leads (g.drained meanwhile) :=
  (Leads.step (.log g.halt.drainEvent) _).trans (leads_drain meanwhile _)

theorem leads_finish [Log.Patterns] (report : ShutdownReport) (g : Gateway M) :
    g.Leads (g.finish report) :=
  ⟨[.record (.drained report.drains), .cancel, .settle, .log (Stage.event .draining .stopped),
    .log (completeEvent report)], rfl⟩

/-- **The shutdown** takes such steps only. -/
theorem closes_shutdown [Log.Patterns] (meanwhile : List TrafficStep) (g : Gateway M) :
    ∃ steps, g.close steps = (g.shutdown meanwhile).1 := by
  rw [shutdown_eq]
  exact (g.leads_halt.trans (g.leads_drained meanwhile)).trans (leads_finish _ _)

end Gateway

namespace Context

variable {M : Type}

/-- All that has to be stopped, in the order in which that is done. -/
def hooks (c : Context M) : List (TeardownStep × Hook) :=
  c.telemetry.toList.map (.telemetry, ·) ++ c.auxiliary.map (.auxiliary, ·) ++
    c.sinks.map (.logSink, ·)

theorem hooks_setReadiness (value : Bool) (c : Context M) :
    (c.setReadiness value).hooks = c.hooks := by
  obtain ⟨metrics, log, output, hset⟩ := c.exists_setReadiness_eq value
  rw [hset, hooks, hooks]

theorem sightings_foldl_tearDown (step : TeardownStep) (hooks : List Hook) (c : Context M) :
    (hooks.foldl (tearDown step) c).sightings =
      c.sightings ++ hooks.map (.tornDown step · c.readiness) := by
  induction hooks generalizing c with
  | nil => exact (List.append_nil _).symm
  | cons hook rest ih =>
    have hfirst : (c.tearDown step hook).sightings =
        c.sightings ++ [.tornDown step hook c.readiness] := sightings_record _ c
    rw [List.foldl_cons, ih, hfirst, List.append_assoc]
    rfl

/-- All hooks see the flag as it was when the first one was stopped. -/
theorem sightings_tearDownAll (c : Context M) :
    c.tearDownAll.sightings =
      c.sightings ++ c.hooks.map fun (step, hook) => .tornDown step hook c.readiness := by
  have hkept (step : TeardownStep) (hooks : List Hook) (c : Context M) :
      (hooks.foldl (tearDown step) c).readiness = c.readiness :=
    readiness_foldl (f := tearDown step) (fun _ _ => rfl) hooks c
  have hclients : (c.auxiliary.foldl (tearDown .auxiliary) (c.telemetry.toList.foldl
      (tearDown .telemetry) { c with telemetry := none, auxiliary := [], sinks := [] })).readiness =
      c.readiness := by
    rw [hkept, hkept]
  rw [tearDownAll, sightings_foldl_tearDown, hclients, sightings_foldl_tearDown, hkept,
    sightings_foldl_tearDown, hooks, List.map_append, List.map_append, List.map_map, List.map_map,
    List.map_map, List.append_assoc, List.append_assoc, List.append_assoc]
  rfl

theorem extends_settle (c : Context M) : c.Extends c.settle := by
  refine ⟨List.prefix_refl _, ?_⟩
  have hnone : ((c.tasks.filter (!c.goesOn ·)).map
      fun t => Happening.taskEnded t c.cancelled).filter (·.seen?.isSome) = [] := by
    rw [List.filter_eq_nil_iff]
    intro h hh
    obtain ⟨t, -, rfl⟩ := List.mem_map.1 hh
    exact Bool.false_ne_true
  rw [sightings, settle, List.filter_append, hnone, List.append_nil, sightings]

end Context

namespace Gateway

variable {M : Type}

theorem context_drain (meanwhile : List TrafficStep) (g : Gateway M) :
    (g.drain meanwhile).context = g.context := by
  rw [drain]
  split <;> rfl

theorem extends_finish (report : ShutdownReport) (g : Gateway M) :
    g.context.Extends (g.finish report).context := by
  refine (Context.extends_record (h := .drained report.drains) rfl g.context).trans ?_
  have hcancelled : (g.context.record (.drained report.drains)).Extends
      { g.context.record (.drained report.drains) with cancelled := true } := .of_eq rfl rfl
  refine hcancelled.trans ((Context.extends_record (h := .cancelledRoot) rfl _).trans ?_)
  exact (Context.extends_settle _).trans (.of_eq rfl rfl)

/-- What the shutdown notes down of operations and teardown steps: all hooks are stopped, and see a
process that is draining. -/
theorem sightings_shutdown (meanwhile : List TrafficStep) (g : Gateway M) :
    (g.shutdown meanwhile).1.context.sightings =
      g.context.sightings ++ g.context.hooks.map fun (step, hook) =>
        .tornDown step hook .draining := by
  have hwithdrawn := g.readiness_withdraw
  have hlogged : g.context.Extends (g.context.logs (Stage.event .serving .draining)) :=
    .of_eq rfl rfl
  have hbegun : g.context.Extends g.withdraw.context :=
    hlogged.trans (Context.extends_setReadiness false _)
  have hhooks : g.withdraw.context.hooks = g.context.hooks := Context.hooks_setReadiness false _
  have hstopped : g.withdraw.context.tearDownAll.Extends (g.drained meanwhile).context := by
    rw [drained, context_drain]
    exact (Context.extends_record (h := .stoppedAccepting) rfl _).trans (.of_eq rfl rfl)
  have hend := hstopped.trans (extends_finish (g.shutdown meanwhile).2 (g.drained meanwhile))
  rw [shutdown_eq, hend.sightings, Context.sightings_tearDownAll, hwithdrawn, hhooks,
    hbegun.sightings]

end Gateway

/-! ### The whole run -/

namespace Context

variable {M : Type} [Bootable M] [Orderly M] {Kind : M → Prop} {c : Context M}

/-- A launch notes down the operations that were run and nothing else, all of them begun with the
readiness that there was. -/
theorem sightings_launch (hkind : LeavesReadiness Kind) (hc : ∀ m ∈ c.modules, Kind m) :
    ∃ ran : List Operation,
      c.launch.1.sightings = c.sightings ++ ran.map (·.begun c.readiness) := by
  obtain ⟨-, ran, hsightings⟩ := c.readiness_bootstrap hkind hc
  refine ⟨ran, Eq.trans ?_ hsightings⟩
  rcases hlaunch : c.launch with ⟨left, result⟩
  cases result with
  | error e => rw [launch_eq_error hlaunch]
  | ok g =>
    obtain ⟨-, hserve⟩ := launch_eq_ok hlaunch
    obtain ⟨-, -, rfl, -⟩ := serve_eq_ok hserve
    exact (extends_ready _ _ _).sightings

/-- **Readiness in the course of a run.** The modules leave the flag alone, and it begins as
starting. All operations of modules see a process that is starting. If the bootstrap is ended or the
socket cannot be opened, the launch fails, and if it fails for whatever reason the flag is still
starting. If it succeeds the process is ready, and remains so while it serves, as long as nobody
sets the flag to draining. From the beginning of the shutdown on the process is draining, whatever
happens then, and all hooks see that. At any time a health check is answered with the flag, unless
it is refused for its time or its length. -/
theorem readiness_of_run [Log.Patterns] (hkind : LeavesReadiness Kind)
    (hc : ∀ m ∈ c.modules, Kind m)
    (hstarting : c.readiness = .starting) :
    ((∃ ran : List Operation,
        c.launch.1.sightings = c.sightings ++ ran.map (·.begun .starting)) ∧
      (∀ halt, c.bootstrap.2 = some halt → ∃ e, c.launch.2 = .error e) ∧
      (∀ cause, c.bootstrap.1.host.openSlots c.bootstrap.1.settings.listener.bindAddress
        c.bootstrap.1.settings.listener.maxConnections = .error cause →
          ∃ e, c.launch.2 = .error e) ∧
      ∀ e, c.launch.2 = .error e → c.launch.1.readiness = .starting) ∧
    (∀ g, c.launch.2 = .ok g →
      c.launch.1 = g.context ∧ g.context.readiness = .ready ∧
      ∀ occurrences, Occurrence.ready false ∉ occurrences →
        let served := (g.serveAll occurrences).1
        served.context.readiness = .ready ∧ served.context.sightings = g.context.sightings ∧
        (∀ steps, (served.close steps).context.readiness = .draining) ∧
        ∀ meanwhile,
          (∃ steps, served.close steps = (served.shutdown meanwhile).1) ∧
          (served.shutdown meanwhile).1.context.sightings =
            served.context.sightings ++ served.context.hooks.map fun (step, hook) =>
              .tornDown step hook .draining) ∧
    ∀ (g : Gateway M) (ids : FreshIds) (request : Request),
      (healthHandler.service g.live request).response.Tells g.context.readiness ∧
      (g.serving.ChecksHealth request →
        let response := (g.respond .primary ids request).response
        (g.serving.Admits request → response.Tells g.context.readiness) ∧
        (¬g.serving.Admits request → response.status = 408 ∨ response.status = 413)) := by
  obtain ⟨hbootstrap, -⟩ := c.readiness_bootstrap hkind hc
  rw [hstarting] at hbootstrap
  refine ⟨⟨?_, fun halt hhalt => ?_, fun cause hcause => ?_, fun e he => ?_⟩, fun g hg => ?_,
    fun g ids request => ⟨tells_healthHandler g.live request, fun hchecks => ?_⟩⟩
  · obtain ⟨ran, hsightings⟩ := sightings_launch hkind hc
    exact ⟨ran, hstarting ▸ hsightings⟩
  · exact ⟨_, congrArg Prod.snd (launch_of_halted hhalt)⟩
  · cases hhalt : c.bootstrap.2 with
    | some halt => exact ⟨_, congrArg Prod.snd (launch_of_halted hhalt)⟩
    | none =>
      obtain ⟨e, he⟩ := exists_serve_eq_error hcause
      exact ⟨e, congrArg Prod.snd ((launch_of_completed hhalt).trans he)⟩
  · have hleft : c.launch.1 = c.bootstrap.1 := launch_eq_error (Prod.ext rfl he)
    rw [hleft]
    exact hbootstrap
  · obtain ⟨-, hserve⟩ := launch_eq_ok (Prod.ext rfl hg)
    obtain ⟨-, -, hleft, hcontext⟩ := serve_eq_ok hserve
    have hready : g.context.readiness = .ready := by
      rw [hcontext, hleft, readiness_ready, hbootstrap]
      rfl
    refine ⟨hcontext.symm, hready, fun occurrences hoccurrences => ?_⟩
    intro served
    exact ⟨Gateway.readiness_serveAll hoccurrences hready,
      (Gateway.extends_serveAll occurrences g).sightings,
      fun steps => Gateway.readiness_close steps served, fun meanwhile =>
        ⟨Gateway.closes_shutdown meanwhile served, Gateway.sightings_shutdown meanwhile served⟩⟩
  · exact Stacks.primary_tells hchecks g.live ids

/-- A rehearsal with health checks and a module that leaves something to be stopped, which fails. -/
def quietRehearsal : Context RehearsalModule :=
  { modules := [
      .builtIn { kind := .health },
      .scripted "store" false fun
        | .init => [.hook .auxiliary "store" (some "gone")]
        | _ => []] }

/-- The rehearsal can be launched, is ready then, and stays so when somebody sets the flag to ready.
A health check in between is answered with that. In the shutdown the hook sees it draining. -/
theorem readiness_of_run_rehearsal :
    ∃ g, quietRehearsal.launch.2 = .ok g ∧ g.context.readiness = .ready ∧
      ((g.serveAll [.ready true]).1.shutdown []).1.context.sightings = g.context.sightings ++
        [.tornDown .auxiliary ⟨"store", some "gone", true⟩ .draining] ∧
      (g.respond .primary ⟨[], []⟩
        { method := "GET", uri := ⟨none, none, ⟨"/healthz".toList, none⟩⟩ }).response.Tells
          .ready := by
  have hquiet : ∀ m ∈ quietRehearsal.modules, m.Quiet := by
    intro m hm
    rcases List.mem_cons.1 hm with rfl | hm
    · trivial
    · obtain rfl := List.mem_singleton.1 hm
      intro phase a ha value
      cases phase <;> simp at ha
      rw [ha]
      exact Action.noConfusion
  obtain ⟨g, hg⟩ : ∃ g, quietRehearsal.launch.2 = .ok g := ⟨_, rfl⟩
  obtain ⟨-, hrun, hchecks⟩ := readiness_of_run RehearsalModule.leavesReadiness hquiet rfl
  obtain ⟨-, hready, hserved⟩ := hrun g hg
  obtain ⟨-, hsightings, -, hshutdown⟩ := hserved [.ready true] (by simp)
  refine ⟨g, hg, hready, ?_, ?_⟩
  · rw [(hshutdown []).2, hsightings]
    cases hg
    rfl
  · rw [← hready]
    refine ((hchecks g ⟨[], []⟩ _).2 ⟨rfl, ?_⟩).1 ⟨?_, ?_⟩
    · cases hg
      rfl
    · cases hg
      decide
    · intro n hn
      cases hn

/-- Being ready does not make every health check succeed: one that announces too long a body is
refused. -/
theorem readiness_of_run_refused :
    ∃ g, quietRehearsal.launch.2 = .ok g ∧ g.context.readiness = .ready ∧
      let request : Request :=
        { method := "GET", uri := ⟨none, none, ⟨"/healthz".toList, none⟩⟩
          headers := [("content-length", bytesOf "2097153")] }
      g.serving.ChecksHealth request ∧
        (g.respond .primary ⟨[], []⟩ request).response.status = 413 :=
  ⟨_, rfl, rfl, ⟨rfl, rfl⟩, by decide +kernel⟩

end Context

end ProtocolGateway

import Mathlib.Data.List.Forall2
import ProtocolGateway.Proofs.BuiltIn.Front
import ProtocolGateway.Proofs.Settings.Accepted
import ProtocolGateway.Startup.Bootstrap

/-!
# Bringing up the built-in modules

Three operations of the built-in modules do something to the context: the exporter of the metrics is
started, and the routes for health checks and for information on the process are added. With
settings that were accepted, the first fails only because of the host or of another recorder, the
second crashes if the path of the health checks is no pattern, and the third never fails.

## Main definitions

* `ExporterFault`: why the exporter cannot be started.
* `Context.Holds`: the settings, the host and the route tables of a context.

## Main results

* `Context.bootstrap_registered`: what a bootstrap of the built-in modules comes to.
-/

namespace ProtocolGateway

/-- The host when the exporter of the metrics has bound its address, if it is wanted. -/
def Settings.exporterHost (s : Settings) (host : Host) : Host :=
  if s.observability.metricsEnabled then
    match SocketAddress.parse? s.observability.metricsAddress with
    | none => host
    | some address =>
      match host.bind address with
      | .error _ => host
      | .ok bound => host.hold bound
  else host

/-- Why the exporter of the metrics cannot be started: the host refuses its address, or there is
another recorder. -/
inductive ExporterFault (s : Settings) (host : Host) (recording : Bool) : String → Prop where
  | socket {address : SocketAddress} {cause : BindError}
    (enabled : s.observability.metricsEnabled)
    (address_eq : SocketAddress.parse? s.observability.metricsAddress = some address)
    (refused : host.bind address = .error cause) :
    ExporterFault s host recording
      ("failed to build Prometheus exporter: failed to create HTTP listener: " ++ cause.message)
  | recorder (enabled : s.observability.metricsEnabled) (recorded : recording = true) :
    ExporterFault s host recording "a metrics recorder is already installed"

namespace Context

variable {M : Type} {c c' : Context M}

/-- What a context has that the built-in modules depend on. -/
structure Holds (s : Settings) (host : Host) (http gateway : Table Handler) (c : Context M) :
    Prop where
  settings : c.settings = s
  host : c.host = host
  http : c.http = http
  gateway : c.gateway = gateway

variable {s : Settings} {host : Host} {http gateway : Table Handler}

theorem Holds.record (h : c.Holds s host http gateway) (happening : Happening) :
    (c.record happening).Holds s host http gateway := ⟨h.settings, h.host, h.http, h.gateway⟩

theorem Holds.logs (h : c.Holds s host http gateway) (e : Log.Event) :
    (c.logs e).Holds s host http gateway := ⟨h.settings, h.host, h.http, h.gateway⟩

theorem Holds.restore (h : c.Holds s host http gateway) (modules : List M) :
    (c.restore modules).Holds s host http gateway := by
  rw [Context.restore]
  split
  · exact ⟨h.settings, h.host, h.http, h.gateway⟩
  · exact ⟨h.settings, h.host, h.http, h.gateway⟩

/-! ### The three operations -/

/-- The exporter binds its address, or fails because of the host or of another recorder. -/
theorem startExporter_cases (h : c.Holds s host http gateway) {address : SocketAddress}
    (henabled : s.observability.metricsEnabled)
    (haddress : SocketAddress.parse? s.observability.metricsAddress = some address) :
    (∃ c' bound, c.startExporter address = (c', .done) ∧ host.bind address = .ok bound ∧
      c'.Holds s (host.hold bound) http gateway) ∨
    ∃ cause, ExporterFault s host c.recording cause ∧
      (c.startExporter address).2 = .failed (.failed "install metrics exporter" cause) := by
  rw [startExporter, h.host]
  cases hbind : host.bind address with
  | error cause => exact .inr ⟨_, .socket henabled haddress hbind, rfl⟩
  | ok bound =>
    cases hrecording : c.recording with
    | true => exact .inr ⟨_, .recorder henabled rfl, rfl⟩
    | false =>
      refine .inl ⟨_, bound, rfl, rfl, ?_⟩
      rw [setTelemetry]
      split <;> exact ⟨h.settings, rfl, h.http, h.gateway⟩

/-- The exporter is started, or not wanted, or fails for reasons of its own. -/
theorem exportMetrics_cases [Log.Patterns] (h : c.Holds s host http gateway) (hvalid : s.Valid) :
    (∃ c', c.exportMetrics = (c', .done) ∧ c'.Holds s (s.exporterHost host) http gateway) ∨
    ∃ cause, ExporterFault s host c.recording cause ∧
      c.exportMetrics.2 = .failed (.failed "install metrics exporter" cause) := by
  rw [exportMetrics, h.settings, Settings.exporterHost]
  by_cases henabled : s.observability.metricsEnabled
  · obtain ⟨address, haddress⟩ := Settings.exists_metricsAddress_of_valid hvalid henabled
    simp only [henabled, haddress]
    rcases startExporter_cases h henabled haddress with ⟨c', bound, hdone, hbound, hholds⟩ | hfault
    · simp only [hbound]
      exact .inl ⟨c', hdone, hholds⟩
    · exact .inr hfault
  · simp only [henabled]
    exact .inl ⟨c, rfl, h⟩

/-- Health checks crash the process if their path is no pattern. -/
theorem routeHealth_of_parse?_eq_none (h : c.Holds s host http gateway)
    (hpath : Pattern.parse? s.health.path.toList = none) : c.routeHealth = (c, .crashed) := by
  rw [routeHealth, h.settings, Table.get?_eq, hpath]
  rfl

/-- Otherwise they get a route. -/
theorem exists_routeHealth (h : c.Holds s host {} gateway) {health : Pattern}
    (hpath : Pattern.parse? s.health.path.toList = some health) :
    ∃ c', c.routeHealth = (c', .done) ∧
      c'.Holds s host { routes := [⟨health, .one .get healthHandler⟩] } gateway := by
  have hmerge : ({} : Table Handler).merge { routes := [⟨health, .one .get healthHandler⟩] } =
      .ok { routes := [⟨health, .one .get healthHandler⟩] } :=
    Table.merge_of_fits rfl (by simp) (by simp)
  rw [routeHealth, h.settings, Table.get?_eq, hpath]
  simp only [Option.map_some, routeHttp, h.http, hmerge]
  exact ⟨_, rfl, h.settings, h.host, rfl, h.gateway⟩

/-- The information on the process gets its routes. -/
theorem exists_routeInfo {health : Pattern}
    (h : c.Holds s host { routes := [⟨health, .one .get healthHandler⟩] } {})
    (hhealth : health.text ≠ infoPath) :
    ∃ c', c.routeInfo = (c', .done) ∧
      c'.Holds s host (builtInTable health) gatewayInfoTable := by
  have hmerge : ({} : Table Handler).merge gatewayInfoTable = .ok gatewayInfoTable :=
    Table.merge_of_fits rfl (by simp) (by simp [gatewayInfoTable])
  have hhttp : Table.get? infoPath infoHandler =
      some { routes := [⟨infoPattern, .one .get infoHandler⟩] } := by
    have hparse : Pattern.parse? infoPath = some infoPattern := infoPattern.parse?_text
    rw [Table.get?_eq, hparse]
    rfl
  have hgateway : Table.get? gatewayInfoPath infoHandler = some gatewayInfoTable := by
    have hparse : Pattern.parse? gatewayInfoPath = some gatewayInfoPattern :=
      gatewayInfoPattern.parse?_text
    rw [Table.get?_eq, hparse]
    rfl
  rw [routeInfo, hhttp, hgateway]
  simp only [routeHttp, h.http, merge_infoRoute hhealth, andThen, routeGateway, h.gateway, hmerge]
  exact ⟨_, rfl, h.settings, h.host, rfl, rfl⟩

/-! ### The loops -/

section loops

variable [Bootable M] {phase : Phase} {phases : List Phase} {index : Nat} {m m' : M}
  {rest modules modules' : List M} {halt : Halt}

/-- A module whose operation is done hands on to the next one. -/
theorem runPhase_of_done
    (h : Bootable.operate phase m (c.record (.operation phase index c.readiness)) =
      (m', c', .done)) :
    runPhase phase index (m :: rest) c =
      (m' :: (runPhase phase (index + 1) rest c').1, (runPhase phase (index + 1) rest c').2) := by
  rw [runPhase, h]

/-- A module that crashes ends the bootstrap. -/
theorem runPhase_of_crashed
    (h : Bootable.operate phase m (c.record (.operation phase index c.readiness)) =
      (m', c', .crashed)) :
    runPhase phase index (m :: rest) c = (m' :: rest, c', some .crashed) := by
  rw [runPhase, h]

/-- A phase that is done hands on to the next one. -/
theorem runPhases_of_done (h : runPhase phase 0 modules c = (modules', c', none)) :
    runPhases (phase :: phases) modules c = runPhases phases modules' c' := by
  rw [runPhases, h]

theorem runPhases_of_halted (h : (runPhase phase 0 modules c).2.2 = some halt) :
    (runPhases (phase :: phases) modules c).2.2 = some halt := by
  rcases hrun : runPhase phase 0 modules c with ⟨modules', c', halt'⟩
  rw [hrun] at h
  obtain rfl : halt' = some halt := h
  rw [runPhases, hrun]

theorem bootstrap_of_halted
    (h : (runPhases Phase.all c.modules { c with modules := [] }).2.2 = some halt) :
    c.bootstrap.2 = some halt := by
  rcases hrun : runPhases Phase.all c.modules { c with modules := [] } with ⟨modules', c', halt'⟩
  rw [hrun] at h
  obtain rfl : halt' = some halt := h
  simp only [bootstrap, hrun]
  split <;> rfl

theorem bootstrap_of_done
    (h : runPhases Phase.all c.modules { c with modules := [] } = (modules', c', none)) :
    c.bootstrap = (c'.restore modules', none) := by
  rw [bootstrap, h]
  rfl

/-- Modules to whose operations of a phase nothing comes of but the modules that are left. -/
def Idle (phase : Phase) : List M → List M → Prop :=
  List.Forall₂ fun m m' => ∀ c : Context M, Bootable.operate phase m c = (m', c, .done)

/-- A phase in which nothing is done to the context. -/
theorem Idle.exists_runPhase (hidle : Idle phase modules modules') (h : c.Holds s host http gateway)
    (index : Nat) :
    ∃ c', runPhase phase index modules c = (modules', c', none) ∧
      c'.Holds s host http gateway := by
  induction hidle generalizing index c with
  | nil => exact ⟨c, rfl, h⟩
  | cons hfirst _ ih =>
    obtain ⟨c', hrest, hholds⟩ := ih (h.record (.operation phase index c.readiness)) (index + 1)
    refine ⟨c', ?_, hholds⟩
    rw [runPhase_of_done (hfirst _), hrest]

end loops

end Context

/-- The built-in modules once they were initialized. -/
def BuiltInModule.initialized : List BuiltInModule :=
  [{ kind := .telemetry }, { kind := .health }, { kind := .system, started := true }]

namespace BuiltInModule

theorem idle_init : Context.Idle .init registered initialized :=
  .cons (fun _ => rfl) (.cons (fun _ => rfl) (.cons (fun _ => rfl) .nil))

theorem idle_postInit : Context.Idle .postInit initialized initialized :=
  .cons (fun _ => rfl) (.cons (fun _ => rfl) (.cons (fun _ => rfl) .nil))

theorem idle_start : Context.Idle .start initialized initialized :=
  .cons (fun _ => rfl) (.cons (fun _ => rfl) (.cons (fun _ => rfl) .nil))

end BuiltInModule

/-- The bootstrap error of an exporter that cannot be started. -/
def exporterError (cause : String) : BootstrapError :=
  ⟨.preInit, 0, "telemetry", .failed "install metrics exporter" cause⟩

namespace Context

variable {c c' : Context BuiltInModule} {s : Settings} {host : Host}
  {http gateway : Table Handler}

/-! ### The phases -/

/-- In the first phase the exporter is started. -/
theorem runPhase_preInit [Log.Patterns] (h : c.Holds s host http gateway) (hvalid : s.Valid) :
    (∃ c', runPhase .preInit 0 BuiltInModule.registered c = (BuiltInModule.registered, c', none) ∧
      c'.Holds s (s.exporterHost host) http gateway) ∨
    ∃ cause, ExporterFault s host c.recording cause ∧
      (runPhase .preInit 0 BuiltInModule.registered c).2.2 =
        some (.failed (exporterError cause)) := by
  have hregistered : BuiltInModule.registered =
    [{ kind := .telemetry }, { kind := .health }, { kind := .system }] := rfl
  have hoperate (c : Context BuiltInModule) :
      Bootable.operate .preInit ({ kind := .telemetry } : BuiltInModule) c =
        ({ kind := .telemetry }, c.exportMetrics) := rfl
  rcases exportMetrics_cases (h.record (.operation .preInit 0 c.readiness)) hvalid with
    ⟨c', hdone, hholds⟩ | ⟨cause, hcause, hfailed⟩
  · rw [hregistered, runPhase_of_done ((hoperate _).trans (congrArg (Prod.mk _) hdone))]
    exact .inl ⟨_, rfl, (hholds.record _).record _⟩
  · rcases hexport : (c.record (.operation .preInit 0 c.readiness)).exportMetrics with ⟨c', outcome⟩
    rw [hexport] at hfailed
    obtain rfl : outcome = _ := hfailed
    rw [hregistered, runPhase, hoperate, hexport]
    exact .inr ⟨cause, hcause, rfl⟩

/-- In the fourth phase the routes are added. -/
theorem runPhase_load [Log.Patterns] (h : c.Holds s host {} {}) (hvalid : s.Valid) :
    (∃ health : Pattern, health.text = s.health.path.toList ∧
      ∃ c', runPhase .load 0 BuiltInModule.initialized c = (BuiltInModule.initialized, c', none) ∧
        c'.Holds s host (builtInTable health) gatewayInfoTable) ∨
    Pattern.parse? s.health.path.toList = none ∧
      (runPhase .load 0 BuiltInModule.initialized c).2.2 = some .crashed := by
  have hhealth (c : Context BuiltInModule) :
      Bootable.operate .load ({ kind := .health } : BuiltInModule) c =
        ({ kind := .health }, c.routeHealth) := rfl
  have hsystem (c : Context BuiltInModule) :
      Bootable.operate .load ({ kind := .system, started := true } : BuiltInModule) c =
        ({ kind := .system, started := true }, c.routeInfo) := rfl
  have hidle := h.record (.operation .load 0 c.readiness)
  have hbegun := hidle.record (.operation .load 1 c.readiness)
  rw [BuiltInModule.initialized, runPhase_of_done rfl]
  cases hpath : Pattern.parse? s.health.path.toList with
  | none =>
    have hcrashed := routeHealth_of_parse?_eq_none hbegun hpath
    rw [runPhase_of_crashed ((hhealth _).trans (congrArg (Prod.mk _) hcrashed))]
    exact .inr ⟨rfl, rfl⟩
  | some health =>
    have htext := Pattern.text_of_parse? hpath
    obtain ⟨c₁, hdone, hholds⟩ := exists_routeHealth hbegun hpath
    obtain ⟨c₂, hdone', hholds'⟩ := exists_routeInfo
      (hholds.record (.operation .load 2 c₁.readiness))
      (htext ▸ Settings.healthPath_ne_infoPath hvalid)
    rw [runPhase_of_done ((hhealth _).trans (congrArg (Prod.mk _) hdone)),
      runPhase_of_done ((hsystem _).trans (congrArg (Prod.mk _) hdone'))]
    exact .inl ⟨health, htext, c₂, rfl, hholds'⟩

/-- **What a bootstrap of the built-in modules comes to**, with settings that were accepted: the
exporter cannot be started, the path of the health checks is no pattern, or all is done and the
routes are there. -/
theorem bootstrap_registered [Log.Patterns] (hmodules : c.modules = BuiltInModule.registered)
    (h : c.Holds s host {} {}) (hvalid : s.Valid) :
    (∃ cause, ExporterFault s host c.recording cause ∧
      c.bootstrap.2 = some (.failed (exporterError cause))) ∨
    (Pattern.parse? s.health.path.toList = none ∧ c.bootstrap.2 = some .crashed) ∨
    ∃ health : Pattern, health.text = s.health.path.toList ∧ c.bootstrap.2 = none ∧
      c.bootstrap.1.Holds s (s.exporterHost host) (builtInTable health) gatewayInfoTable := by
  -- Only the first and the fourth phase do something to the context, so only they can end it.
  have hbegun : ({ c with modules := [] } : Context BuiltInModule).Holds s host {} {} :=
    ⟨h.settings, h.host, h.http, h.gateway⟩
  rcases runPhase_preInit hbegun hvalid with ⟨c₁, hpreInit, h₁⟩ | ⟨cause, hcause, hfailed⟩
  · obtain ⟨c₂, hinit, h₂⟩ := BuiltInModule.idle_init.exists_runPhase h₁ 0
    obtain ⟨c₃, hpostInit, h₃⟩ := BuiltInModule.idle_postInit.exists_runPhase h₂ 0
    have hphases (phases : List Phase) :
        runPhases (.preInit :: .init :: .postInit :: phases) c.modules { c with modules := [] } =
          runPhases phases BuiltInModule.initialized c₃ := by
      rw [hmodules, runPhases_of_done hpreInit, runPhases_of_done hinit,
        runPhases_of_done hpostInit]
    rcases runPhase_load h₃ hvalid with ⟨health, htext, c₄, hload, h₄⟩ | ⟨hpath, hcrashed⟩
    · obtain ⟨c₅, hstart, h₅⟩ := BuiltInModule.idle_start.exists_runPhase h₄ 0
      have hdone : c.bootstrap = (c₅.restore BuiltInModule.initialized, none) :=
        bootstrap_of_done ((hphases _).trans ((runPhases_of_done hload).trans
          (runPhases_of_done hstart)))
      rw [hdone]
      exact .inr (.inr ⟨health, htext, rfl, h₅.restore _⟩)
    · refine .inr (.inl ⟨hpath, bootstrap_of_halted ?_⟩)
      rw [Phase.all, hphases]
      exact runPhases_of_halted hcrashed
  · refine .inl ⟨cause, hcause, bootstrap_of_halted ?_⟩
    rw [hmodules]
    exact runPhases_of_halted hfailed

end Context

end ProtocolGateway

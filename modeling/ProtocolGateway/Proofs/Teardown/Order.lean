import ProtocolGateway.Proofs.Readiness.Course
import ProtocolGateway.Proofs.Traffic.Draining

/-!
# The order of a shutdown

A shutdown is one list of steps, and which of them fail makes no difference to it: the flag is
withdrawn; the telemetry agent, the clients of other services and the outputs of the log are stopped
one by one; no more connections are accepted; the servers drain; and the root scope is cancelled, so
that all tasks end. The journal tells of each of these steps once and in this order, and the report
tells which failed. The scope is as it was until the last server has stopped.

Nothing is assumed of the servers here: whatever they are about, they have stopped after the drain.

## Main definitions

* `Context.Deposit`: what modules leave to be stopped.
* `Gateway.stepsToCancel`: the steps of a shutdown before the root scope is cancelled.

## Main results

* `Context.hooks_leaveAll`: the hooks come in the order in which they were left.
* `Context.journal_tearDownAll`: stopping them is noted down in that order.
* `Gateway.stopped_drain`, `Gateway.loop_drain`: after the drain nothing accepts or serves.
* `Gateway.shutdown_in_order`: the order of a shutdown.
-/

namespace ProtocolGateway

/-! ### Servers and the accept loop -/

namespace Server

variable {s : Server}

theorem runs_stop (s : Server) : s.stop.runs = false := by
  rw [stop]
  split
  · rfl
  · next h => simpa using h

theorem stage_expire (hs : s.runs = false) : s.expire.stage = .stopped := by
  rw [expire]
  split
  · rfl
  · next hstage =>
    rw [runs] at hs
    cases h : s.stage <;> simp [h] at hs hstage ⊢

end Server

namespace Traffic

variable {t : Traffic} {i : Nat} {s : Server} {steps : List TrafficStep}

theorem getElem?_letGo (hs : t.servers[i]? = some s) (f : Server → Server) :
    (t.letGo i f).servers[i]? = some (f s) := by
  have hput := (getElem?_put hs (f s) i).trans (if_pos rfl)
  rw [letGo, hs, modify_eq_put hs]
  dsimp only
  split <;> exact hput

/-- A server that is told to stop does not run afterwards. -/
theorem runs_run_of_stop (hs : t.servers[i]? = some s) (hstop : .stop i ∈ steps) :
    ∃ r, (t.run steps).servers[i]? = some r ∧ r.runs = false := by
  obtain ⟨before, after, rfl⟩ := List.append_of_mem hstop
  obtain ⟨r, hr, -⟩ := exists_server_run (P := fun _ => True) (fun _ _ _ _ _ _ => trivial) hs
    trivial before
  have hstopped : ((t.run before).step (.stop i)).servers[i]? = some r.stop := by
    have hput : (t.run before).step (.stop i) = (t.run before).put i r.stop := modify_eq_put hr _
    rw [hput, getElem?_put hr, if_pos rfl]
  rw [run_append]
  exact exists_server_run (fun _ _ _ _ h => h.runs_eq_false) hstopped r.runs_stop after

/-- The deadline stops a server that was told to stop before. -/
theorem stopped_run_of_expire (hs : t.servers[i]? = some s) (hruns : s.runs = false)
    (hexpire : .expire i ∈ steps) :
    ∃ r, (t.run steps).servers[i]? = some r ∧ r.stage = .stopped := by
  obtain ⟨before, after, rfl⟩ := List.append_of_mem hexpire
  obtain ⟨r, hr, hruns⟩ := exists_server_run (fun _ _ _ _ h => h.runs_eq_false) hs hruns before
  rw [run_append]
  exact exists_server_run (fun _ _ _ _ h => h.stopped)
    (getElem?_letGo hr Server.expire) (Server.stage_expire hruns) after

end Traffic

namespace Gateway

variable {M : Type}

/-- **After the drain** all servers have stopped, whatever they were about. -/
theorem stopped_drain (meanwhile : List TrafficStep) (g : Gateway M) :
    ∀ r ∈ (g.drain meanwhile).traffic.servers, r.stage = .stopped := by
  intro r hr
  obtain ⟨i, hi⟩ := List.mem_iff_getElem?.1 hr
  rw [traffic_drain] at hi
  obtain ⟨s, hs⟩ := Traffic.exists_server_of_run hi
  have hmem : i ∈ List.range g.serverCount :=
    List.mem_range.2 (List.getElem?_eq_some_iff.1 hs).1
  have hstop : .stop i ∈ g.drainSteps := List.mem_cons_of_mem _ (List.mem_map_of_mem hmem)
  have hexpire : .expire i ∈ g.deadlineSteps := List.mem_map_of_mem hmem
  obtain ⟨told, htold, hruns⟩ := Traffic.runs_run_of_stop hs hstop
  obtain ⟨late, hlate, hruns⟩ := Traffic.exists_server_run (fun _ _ _ _ h => h.runs_eq_false)
    htold hruns (g.inTime meanwhile)
  obtain ⟨last, hlast, hstopped⟩ := Traffic.stopped_run_of_expire hlate hruns hexpire
  rw [drainOrder, Traffic.run_append, Traffic.run_append, hlast] at hi
  obtain rfl := Option.some.inj hi
  exact hstopped

/-- The reports are those of the servers, in their order. -/
theorem protocol_reports_drain (meanwhile : List TrafficStep) (g : Gateway M) :
    (g.drain meanwhile).traffic.reports.map (·.protocol) = g.traffic.servers.map (·.protocol) := by
  have hkept : (g.drain meanwhile).traffic.servers.map (·.protocol) =
      g.traffic.servers.mapIdx fun _ s => s.protocol := by
    rw [traffic_drain]
    exact Traffic.map_servers_run fun i s hs => Traffic.exists_server_run
      (P := (·.protocol = s.protocol)) (fun _ _ _ _ h hs => h.protocol.trans hs) hs rfl _
  rw [Traffic.reports, List.map_map]
  refine hkept.trans (List.ext_getElem? fun i => ?_)
  rw [List.getElem?_mapIdx, List.getElem?_map]

/-- After the drain nothing is accepted any more, and nothing was accepted meanwhile. -/
theorem loop_drain (meanwhile : List TrafficStep) (g : Gateway M) :
    (g.drain meanwhile).traffic.loop = .stopped ∧
      (g.drain meanwhile).traffic.accepted = g.traffic.accepted := by
  rw [traffic_drain]
  exact Traffic.loop_run (t := g.traffic.step .stopAccepting) rfl _

end Gateway

/-! ### What is stopped -/

namespace Context

variable {M : Type}

/-- Setting the flag does nothing else that matters here. -/
theorem setReadiness_keeps (value : Bool) (c : Context M) :
    (c.setReadiness value).journal = c.journal ∧ (c.setReadiness value).cancelled = c.cancelled ∧
      (c.setReadiness value).tasks = c.tasks := by
  obtain ⟨metrics, log, output, hset⟩ := c.exists_setReadiness_eq value
  rw [hset]
  exact ⟨rfl, rfl, rfl⟩

/-- Something that modules leave to be stopped. -/
inductive Deposit where
  | agent (hook : Hook)
  | client (hook : Hook)
  | output (hook : Hook)

def Deposit.agent? : Deposit → Option Hook
  | .agent hook => some hook
  | _ => none

def Deposit.client? : Deposit → Option Hook
  | .client hook => some hook
  | _ => none

def Deposit.output? : Deposit → Option Hook
  | .output hook => some hook
  | _ => none

/-- Leaves something to be stopped. -/
def leave (c : Context M) : Deposit → Context M
  | .agent hook => c.setTelemetry hook
  | .client hook => c.addAuxiliary hook
  | .output hook => c.addSink hook

theorem setTelemetry_hooks (h : Hook) (c : Context M) :
    (c.setTelemetry h).telemetry = some h ∧ (c.setTelemetry h).auxiliary = c.auxiliary ∧
      (c.setTelemetry h).sinks = c.sinks := by
  rw [setTelemetry]
  cases c.telemetry <;> exact ⟨rfl, rfl, rfl⟩

/-- **The hooks come in the order in which they were left**, and of the telemetry agents only the
last one. -/
theorem hooks_leaveAll (deposits : List Deposit) (c : Context M) :
    (deposits.foldl leave c).hooks =
      ((deposits.filterMap (·.agent?)).getLast?.or c.telemetry).toList.map (.telemetry, ·) ++
        (c.auxiliary ++ deposits.filterMap (·.client?)).map (.auxiliary, ·) ++
        (c.sinks ++ deposits.filterMap (·.output?)).map (.logSink, ·) := by
  induction deposits generalizing c with
  | nil => simp [hooks]
  | cons deposit rest ih =>
    rw [List.foldl_cons, ih]
    cases deposit with
    | agent hook =>
      obtain ⟨htelemetry, hauxiliary, hsinks⟩ := c.setTelemetry_hooks hook
      have hlast (l : List Hook) (previous : Option Hook) :
          (hook :: l).getLast?.or previous = l.getLast?.or (some hook) := by
        rw [List.getLast?_cons]
        cases l.getLast? <;> rfl
      simp only [leave, htelemetry, hauxiliary, hsinks, List.filterMap_cons, Deposit.agent?,
        Deposit.client?, Deposit.output?, hlast]
    | client hook => simp [leave, addAuxiliary, Deposit.agent?, Deposit.client?, Deposit.output?]
    | output hook => simp [leave, addSink, Deposit.agent?, Deposit.client?, Deposit.output?]

/-- The hooks are stopped one by one. -/
theorem tearDownAll_eq (c : Context M) :
    c.tearDownAll = c.hooks.foldl (fun c (step, hook) => c.tearDown step hook)
      { c with telemetry := none, auxiliary := [], sinks := [] } := by
  rw [tearDownAll, hooks, List.foldl_append, List.foldl_append, List.foldl_map, List.foldl_map,
    List.foldl_map]

/-- Stopping them leaves the root scope alone. -/
theorem cancelled_tearDownAll (c : Context M) : c.tearDownAll.cancelled = c.cancelled := by
  have hkept (step : TeardownStep) (hooks : List Hook) (c : Context M) :
      (hooks.foldl (tearDown step) c).cancelled = c.cancelled :=
    cancelled_of_lasting (lasting_foldl (f := tearDown step) (fun _ _ => rfl) hooks c)
  rw [tearDownAll, hkept, hkept, hkept]

/-- The steps that fail are those whose hooks fail. -/
theorem teardownFailures_eq (c : Context M) :
    c.teardownFailures = c.hooks.filterMap fun (step, hook) =>
      hook.failure.map fun error => ⟨step, hook.name, error⟩ := by
  simp only [teardownFailures, failuresOf, hooks, List.filterMap_append, List.filterMap_map]
  rfl

/-- All tasks end once the root scope is cancelled. -/
theorem settle_cancel (c : Context M) :
    c.cancel.settle.journal = c.journal ++ [.cancelledRoot] ++ c.tasks.map (.taskEnded · true) ∧
      c.cancel.settle.tasks = [] := by
  simp [settle, cancel, goesOn, record]

end Context

/-! ### The steps of a shutdown -/

/-- What a step notes down while the process is draining. -/
def ClosingStep.notes : ClosingStep → List Happening
  | .tearDown step hook => [.tornDown step hook .draining]
  | .record h => [h]
  | _ => []

/-- Whether a step is one of the shutdown and leaves the root scope and the tasks alone. -/
def ClosingStep.LeavesScope : ClosingStep → Prop
  | .cancel | .settle | .meanwhile _ => False
  | _ => True

namespace Gateway

variable {M : Type}

/-- Withdrawing the flag leaves the journal, the root scope and the tasks alone. -/
theorem withdraw_keeps (g : Gateway M) :
    g.withdraw.context.journal = g.context.journal ∧
      g.withdraw.context.cancelled = g.context.cancelled ∧
      g.withdraw.context.tasks = g.context.tasks :=
  Context.setReadiness_keeps false _

theorem takeStep_of_leavesScope [Log.Patterns] {g : Gateway M}
    (hdraining : g.context.readiness = .draining) {step : ClosingStep} (h : step.LeavesScope) :
    (g.takeStep step).context.journal = g.context.journal ++ step.notes ∧
      (g.takeStep step).context.cancelled = g.context.cancelled ∧
      (g.takeStep step).context.tasks = g.context.tasks := by
  cases step with
  | cancel | settle | meanwhile => exact h.elim
  | tearDown step hook => exact ⟨by rw [ClosingStep.notes, ← hdraining]; rfl, rfl, rfl⟩
  | record h => exact ⟨rfl, rfl, rfl⟩
  | takeHooks | log | advance => exact ⟨(List.append_nil _).symm, rfl, rfl⟩

/-- **Until the root scope is cancelled** it is as it was, and so are the tasks, and all that is
noted down is what the steps of the shutdown note down. -/
theorem close_of_leavesScope [Log.Patterns] (g : Gateway M) {steps : List ClosingStep}
    (h : ∀ step ∈ steps, step.LeavesScope) :
    (g.close steps).context.journal = g.context.journal ++ steps.flatMap (·.notes) ∧
      (g.close steps).context.cancelled = g.context.cancelled ∧
      (g.close steps).context.tasks = g.context.tasks := by
  suffices hrun : ∀ g : Gateway M, g.context.readiness = .draining →
      (steps.foldl takeStep g).context.journal = g.context.journal ++ steps.flatMap (·.notes) ∧
        (steps.foldl takeStep g).context.cancelled = g.context.cancelled ∧
        (steps.foldl takeStep g).context.tasks = g.context.tasks by
    obtain ⟨hnoted, hscope, hrunning⟩ := g.withdraw_keeps
    obtain ⟨hjournal, hcancelled, htasks⟩ := hrun g.withdraw g.readiness_withdraw
    exact ⟨hnoted ▸ hjournal, hcancelled.trans hscope, htasks.trans hrunning⟩
  induction steps with
  | nil => exact fun g _ => ⟨(List.append_nil _).symm, rfl, rfl⟩
  | cons step rest ih =>
    intro g hdraining
    obtain ⟨hjournal, hcancelled, htasks⟩ :=
      takeStep_of_leavesScope hdraining (h step List.mem_cons_self)
    obtain ⟨hjournal', hcancelled', htasks'⟩ :=
      ih (fun step hstep => h step (List.mem_cons_of_mem _ hstep)) (g.takeStep step)
        (readiness_takeStep hdraining step)
    refine ⟨hjournal'.trans ?_, hcancelled'.trans hcancelled, htasks'.trans htasks⟩
    rw [hjournal, List.append_assoc, List.flatMap_cons]

/-- The steps that stop the hooks. -/
def hookSteps (g : Gateway M) : List ClosingStep :=
  .takeHooks :: g.context.hooks.map fun (step, hook) => .tearDown step hook

/-- The steps of a shutdown before the root scope is cancelled. -/
def stepsToCancel (meanwhile : List TrafficStep) (g : Gateway M) : List ClosingStep :=
  g.hookSteps ++
    [.record .stoppedAccepting, .log g.drainEvent, .advance (g.drainOrder meanwhile),
      .record (.drained (g.drain meanwhile).traffic.reports)]

theorem close_hookSteps [Log.Patterns] (g : Gateway M) :
    g.close g.hookSteps = g.withdraw.mapContext (·.tearDownAll) := by
  have hfold (hooks : List (TeardownStep × Hook)) (g : Gateway M) :
      (hooks.map fun (step, hook) => ClosingStep.tearDown step hook).foldl takeStep g =
        g.mapContext (hooks.foldl (fun c (step, hook) => c.tearDown step hook) ·) := by
    induction hooks generalizing g with
    | nil => rfl
    | cons hook rest ih => exact ih _
  have hhooks : g.withdraw.context.hooks = g.context.hooks := Context.hooks_setReadiness false _
  rw [close, hookSteps, List.foldl_cons, hfold, ← hhooks]
  exact congrArg (fun c => { g.withdraw with context := c }) g.withdraw.context.tearDownAll_eq.symm

theorem leavesScope_stepsToCancel (meanwhile : List TrafficStep) (g : Gateway M) :
    ∀ step ∈ g.stepsToCancel meanwhile, step.LeavesScope := by
  intro step h
  simp only [stepsToCancel, hookSteps, List.mem_append, List.mem_cons, List.mem_map,
    List.not_mem_nil, or_false] at h
  obtain (rfl | ⟨hook, -, rfl⟩) | rfl | rfl | rfl | rfl := h <;> trivial

theorem notes_stepsToCancel (meanwhile : List TrafficStep) (g : Gateway M) :
    (g.stepsToCancel meanwhile).flatMap (·.notes) =
      (g.context.hooks.map fun (step, hook) => .tornDown step hook .draining) ++
        [.stoppedAccepting, .drained (g.drain meanwhile).traffic.reports] := by
  have hhooks (hooks : List (TeardownStep × Hook)) :
      (hooks.map fun (step, hook) => ClosingStep.tearDown step hook).flatMap (·.notes) =
        hooks.map fun (step, hook) => .tornDown step hook .draining := by
    rw [List.flatMap_map, List.map_eq_flatMap]
    rfl
  rw [stepsToCancel, hookSteps, List.flatMap_append, List.flatMap_cons, hhooks]
  rfl

/-- The drain comes after all hooks, and is that of a process whose shutdown has not begun. -/
theorem drained_eq (meanwhile : List TrafficStep) (g : Gateway M) :
    g.drained meanwhile =
      (g.halt.mapContext (·.logs g.drainEvent)).advance (g.drainOrder meanwhile) := by
  have hcancelled : g.halt.context.cancelled = g.context.cancelled :=
    g.withdraw.context.cancelled_tearDownAll.trans g.withdraw_keeps.2.1
  have horder : (g.halt.mapContext (·.logs g.halt.drainEvent)).drainOrder meanwhile =
      g.drainOrder meanwhile := by
    have htime : (g.halt.mapContext (·.logs g.halt.drainEvent)).inTime meanwhile =
        g.inTime meanwhile := by
      rw [inTime, inTime, ← hcancelled]
      rfl
    rw [drainOrder, htime]
    rfl
  rw [drained, drain_eq, horder]
  rfl

theorem traffic_drained (meanwhile : List TrafficStep) (g : Gateway M) :
    (g.drained meanwhile).traffic = (g.drain meanwhile).traffic := by
  rw [drained_eq, traffic_drain]
  rfl

theorem drains_shutdown (meanwhile : List TrafficStep) (g : Gateway M) :
    (g.shutdown meanwhile).2.drains = (g.drain meanwhile).traffic.reports :=
  congrArg Traffic.reports (traffic_drained meanwhile g)

theorem close_stepsToCancel [Log.Patterns] (meanwhile : List TrafficStep) (g : Gateway M) :
    g.close (g.stepsToCancel meanwhile) =
      (g.drained meanwhile).mapContext (·.record (.drained (g.shutdown meanwhile).2.drains)) := by
  have hhooks : g.hookSteps.foldl takeStep g.withdraw = g.withdraw.mapContext (·.tearDownAll) :=
    g.close_hookSteps
  rw [close, stepsToCancel, List.foldl_append, hhooks, drained_eq, drains_shutdown]
  rfl

/-- The steps of a shutdown after the servers have drained. -/
def lastSteps (report : ShutdownReport) : List ClosingStep :=
  [.cancel, .settle, .log (Stage.event .draining .stopped), .log (completeEvent report)]

theorem finish_eq [Log.Patterns] (report : ShutdownReport) (g : Gateway M) :
    g.finish report =
      (lastSteps report).foldl takeStep (g.mapContext (·.record (.drained report.drains))) := rfl

/-- **A shutdown is one list of steps**. -/
theorem shutdown_eq_close [Log.Patterns] (meanwhile : List TrafficStep) (g : Gateway M) :
    (g.shutdown meanwhile).1 =
      g.close (g.stepsToCancel meanwhile ++ lastSteps (g.shutdown meanwhile).2) := by
  have hbefore : (g.stepsToCancel meanwhile).foldl takeStep g.withdraw =
      (g.drained meanwhile).mapContext (·.record (.drained (g.shutdown meanwhile).2.drains)) :=
    close_stepsToCancel meanwhile g
  rw [close, List.foldl_append, hbefore, shutdown_eq, finish_eq]

/-- **The order of a shutdown**, for all hooks, tasks and servers, and whatever fails. First the
flag is withdrawn, and all hooks see that: the telemetry agent, of which only the last one is left,
then the clients of other services and the outputs of the log as they were left. Then no more
connections are accepted, the servers drain, the root scope is cancelled and all tasks end; each of
these is noted down once. The report tells of the hooks that failed, in their order, and has a
report of each server. In the end the accept loop and all servers have stopped, and no connection
was accepted meanwhile. The shutdown is a list of steps, and up to the last one before the root
scope is cancelled, when all hooks and servers have stopped, the scope and the tasks are as they
were. -/
theorem shutdown_in_order [Log.Patterns] (g : Gateway M) (meanwhile : List TrafficStep) :
    let stopped := (g.shutdown meanwhile).1
    let report := (g.shutdown meanwhile).2
    let torn := g.context.hooks.map fun (step, hook) => Happening.tornDown step hook .draining
    stopped.context.journal =
      g.context.journal ++ torn ++ [.stoppedAccepting, .drained report.drains, .cancelledRoot] ++
        g.context.tasks.map (.taskEnded · true) ∧
    (∀ (c : Context M) (deposits : List Context.Deposit), (deposits.foldl Context.leave c).hooks =
      ((deposits.filterMap (·.agent?)).getLast?.or c.telemetry).toList.map (.telemetry, ·) ++
        (c.auxiliary ++ deposits.filterMap (·.client?)).map (.auxiliary, ·) ++
        (c.sinks ++ deposits.filterMap (·.output?)).map (.logSink, ·)) ∧
    (report.stage = .stopped ∧
      (report.failures = g.context.hooks.filterMap fun (step, hook) =>
        hook.failure.map fun error => ⟨step, hook.name, error⟩) ∧
      report.drains = stopped.traffic.reports ∧
      report.drains.map (·.protocol) = g.traffic.servers.map (·.protocol)) ∧
    ((∀ s ∈ stopped.traffic.servers, s.stage = .stopped) ∧ stopped.traffic.loop = .stopped ∧
      stopped.traffic.accepted = g.traffic.accepted) ∧
    (stopped.context.readiness = .draining ∧ stopped.context.cancelled = true ∧
      stopped.context.tasks = []) ∧
    g.close (g.stepsToCancel meanwhile ++ lastSteps report) = stopped ∧
    (∀ early, early <+: g.stepsToCancel meanwhile →
      (g.close early).context.readiness = .draining ∧
      (g.close early).context.cancelled = g.context.cancelled ∧
      (g.close early).context.tasks = g.context.tasks) ∧
    (g.close (g.stepsToCancel meanwhile)).context.journal =
      g.context.journal ++ torn ++ [.stoppedAccepting, .drained report.drains] ∧
    (g.close (g.stepsToCancel meanwhile)).traffic = stopped.traffic := by
  intro stopped report torn
  have htraffic : stopped.traffic = (g.drain meanwhile).traffic := traffic_drained meanwhile g
  obtain ⟨hjournal, -, htasks⟩ :=
    g.close_of_leavesScope (g.leavesScope_stepsToCancel meanwhile)
  rw [notes_stepsToCancel, ← drains_shutdown, ← List.append_assoc] at hjournal
  have hclosed := shutdown_eq_close meanwhile g
  obtain ⟨hend, hdone⟩ := (g.close (g.stepsToCancel meanwhile)).context.settle_cancel
  have hcontext : stopped.context = ((((g.close (g.stepsToCancel meanwhile)).context.cancel).settle
      ).logs (Stage.event .draining .stopped)).logs (completeEvent report) := by
    rw [close_stepsToCancel]
    rfl
  refine ⟨?_, fun c deposits => c.hooks_leaveAll deposits,
    ⟨rfl, g.context.teardownFailures_eq, ?_, ?_⟩, ⟨?_, ?_⟩, ⟨?_, ?_, ?_⟩, hclosed.symm,
    fun early hearly => ?_, hjournal, ?_⟩
  · rw [hcontext]
    refine hend.trans ?_
    rw [hjournal, htasks]
    exact congrArg (· ++ _) (List.append_assoc _ _ _)
  · exact (drains_shutdown meanwhile g).trans (congrArg _ htraffic.symm)
  · exact (congrArg _ (drains_shutdown meanwhile g)).trans (protocol_reports_drain meanwhile g)
  · rw [htraffic]
    exact stopped_drain meanwhile g
  · rw [htraffic]
    exact loop_drain meanwhile g
  · rw [show stopped = _ from hclosed]
    exact readiness_close _ g
  · rw [hcontext]
    rfl
  · rw [hcontext]
    exact hdone
  · obtain ⟨-, hcancelled, hkept⟩ := g.close_of_leavesScope fun step hstep =>
      g.leavesScope_stepsToCancel meanwhile step (hearly.subset hstep)
    exact ⟨readiness_close early g, hcancelled, hkept⟩
  · rw [close_stepsToCancel]
    rfl

/-- The hook of the rehearsal fails. All goes on, and the report tells of it. -/
theorem shutdown_in_order_rehearsal :
    ∃ g, Context.quietRehearsal.launch.2 = .ok g ∧
      (g.shutdown []).2.failures = [⟨.auxiliary, "store", "gone"⟩] ∧
      (g.shutdown []).1.context.journal = g.context.journal ++
        [.tornDown .auxiliary ⟨"store", some "gone", true⟩ .draining, .stoppedAccepting,
          .drained [⟨"http1", 0, 0⟩, ⟨"http2", 0, 0⟩], .cancelledRoot] ∧
      (g.close [.takeHooks]).context.tasks = g.context.tasks := by
  obtain ⟨g, hg⟩ : ∃ g, Context.quietRehearsal.launch.2 = .ok g := ⟨_, rfl⟩
  obtain ⟨hjournal, -, ⟨-, hfailures, -⟩, -, -, -, hearly, -⟩ := shutdown_in_order g []
  have hhooks : g.context.hooks = [(.auxiliary, ⟨"store", some "gone", true⟩)] := by
    cases hg
    rfl
  have htasks : g.context.tasks = [] := by
    cases hg
    rfl
  have hdrains : (g.shutdown []).2.drains = [⟨"http1", 0, 0⟩, ⟨"http2", 0, 0⟩] := by
    cases hg
    rfl
  rw [hhooks] at hfailures
  rw [hhooks, htasks, hdrains] at hjournal
  refine ⟨g, hg, hfailures, hjournal.trans ?_,
    (hearly [.takeHooks] (List.prefix_append [_] _)).2.2⟩
  simp only [List.append_assoc]
  rfl

end Gateway

end ProtocolGateway

import ProtocolGateway.Proofs.BuiltIn.Handlers
import ProtocolGateway.Proofs.Http.Agreement
import ProtocolGateway.Proofs.Reload.Tracking
import ProtocolGateway.Proofs.Teardown.Order
import ProtocolGateway.Rehearsal.Script

/-!
# New settings change nothing that is fixed at launch

The two stacks, what finds the protocol of a connection and the time for the drain at the end are
made from the settings with which a process was launched. So a run in which new settings are loaded
is compared with the run of the same occurrences without any change of the settings file. The two
are the same but for the current settings, the log filter and what is written down.

Requests are answered the same then, by the same handler, unless that asks for the mode of the
process. Of the handlers of the built-in modules one does; what it answers is the same but for the
mode in its document.

## Main definitions

* `Gateway.FixedBy`: what is fixed in a process is taken from a context.
* `Gateway.fixed`: a process without what new settings may change.
* `Handler.IgnoresMode`: the answers of a handler do not depend on the mode.

## Main results

* `Gateway.fixed_serveAll`: changes of the settings file make no difference to what is fixed.
* `Gateway.replies_of_fixed_eq`: how replies of two processes compare.
* `Context.reload_changes_mode_only`: the comparison of the two runs.
-/

namespace ProtocolGateway

/-! ### Handlers and the mode -/

/-- What a handler answers does not depend on the mode of the process. -/
def Handler.IgnoresMode (h : Handler) : Prop :=
  ∀ (live : Live) (mode : RunMode) (call : Call), h { live with mode } call = h live call

theorem ignoresMode_healthHandler : Handler.IgnoresMode healthHandler := fun _ _ _ => rfl

/-- The document with which the system module answers. -/
def infoDocument (mode : RunMode) (uptimeSecs : Nat) : Bytes :=
  (Json.obj [("name", .str programName), ("version", .str programVersion),
    ("mode", .str mode.name), ("uptime_secs", .num uptimeSecs)]).toBytes

theorem infoDocument_ne_nil {mode : RunMode} {uptimeSecs : Nat} :
    infoDocument mode uptimeSecs ≠ [] := by
  intro h
  have hfirst : (infoDocument mode uptimeSecs).head? = some 0x7b := rfl
  rw [h] at hfirst
  cases hfirst

theorem agreeBut_infoHandler (live : Live) (mode : RunMode) (call : Call) :
    ((infoHandler { live with mode } call).reply call).AgreeBut
      (infoDocument mode live.uptimeSecs) (infoDocument live.mode live.uptimeSecs)
      ((infoHandler live call).reply call) :=
  ⟨rfl, rfl, rfl, .refl _, .inr ⟨rfl, rfl⟩, rfl⟩

namespace Stacks

variable {g : Stacks} {ids : FreshIds} {entrance : Gateway.Entrance} {request : Request}
variable {call : Call}

/-- The same request under another mode, if no handler asks for that. -/
theorem service_of_ignoresMode (live : Live) (mode : RunMode)
    (h : ∀ handler call, g.reached? ids entrance request = some (handler, call) →
      handler.IgnoresMode) :
    g.service { live with mode } ids entrance request = g.service live ids entrance request := by
  have way : g.Way ids entrance request (g.reached? ids entrance request)
      fun live => g.service live ids entrance request := way_service entrance
  refine (way.agrees (x := []) (y := []) Iff.rfl fun handler call hreached => ?_).eq
  rw [h handler call hreached live mode call]
  exact .refl _

/-- The same request under another mode, if it gets to the system module. -/
theorem service_of_infoHandler (live : Live) (mode : RunMode)
    (h : g.reached? ids entrance request = some (infoHandler, call)) :
    (g.service { live with mode } ids entrance request).AgreeBut
      (infoDocument mode live.uptimeSecs) (infoDocument live.mode live.uptimeSecs)
      (g.service live ids entrance request) := by
  have way : g.Way ids entrance request (g.reached? ids entrance request)
      fun live => g.service live ids entrance request := way_service entrance
  refine way.agrees (iff_of_false infoDocument_ne_nil infoDocument_ne_nil)
    fun handler call' hreached => ?_
  rw [h] at hreached
  cases hreached
  exact agreeBut_infoHandler live mode call

/-- A GET that gets to the system module gets its document. -/
theorem response_of_infoHandler (live : Live) (hget : request.method = Verb.get.name)
    (h : g.reached? ids entrance request = some (infoHandler, call)) :
    (g.service live ids entrance request).response.status = 200 ∧
      (g.service live ids entrance request).response.body =
        infoDocument live.mode live.uptimeSecs := by
  have way : g.Way ids entrance request (some (infoHandler, call))
      fun live => g.service live ids entrance request := h ▸ way_service entrance
  have htime : (infoHandler live call).delay < g.requestMs := way.requestMs_pos
  exact (way.response rfl hget htime).2

end Stacks

/-! ### What is fixed -/

/-- What is fixed in a process is taken from the settings and the route tables of a context, in
which the modules have left their routes, that of the health checks among them. -/
structure Gateway.FixedBy {M : Type} (c : Context M) (g : Gateway M) : Prop where
  serving : Stacks.build? c.settings c.http c.gateway = some g.serving
  reserved : g.serving.reserved = c.settings.gateway.trimmedPrefix
  requestMs : g.serving.requestMs = c.settings.timeouts.requestMs
  maxBodyBytes : g.serving.maxBodyBytes = c.settings.limits.maxBodyBytes
  demultiplexer : g.demultiplexer = .ofSettings c.settings.listener
  peekTimeoutMs : g.peekTimeoutMs = c.settings.listener.peekTimeoutMs
  shutdownMs : g.shutdownMs = c.settings.timeouts.shutdownMs

theorem Context.fixedBy_serve {M : Type} {c left : Context M} {g : Gateway M}
    (h : c.serve = (left, .ok g)) : g.FixedBy c := by
  obtain ⟨-, hserving, -⟩ := serve_eq_ok h
  obtain ⟨hdemultiplexer, hpeek, -, -, hshutdown⟩ := serve_fixes h
  obtain ⟨-, -, -, -, hreserved, hrequest, hbody⟩ := Stacks.build?_eq_some hserving
  exact ⟨hserving, hreserved, hrequest, hbody, hdemultiplexer, hpeek, hshutdown⟩

namespace Gateway

variable {M : Type} {g g' : Gateway M} {occurrences : List Occurrence}

/-- A process without all that changes of the settings file may change, and without what requests
count. -/
def fixed (g : Gateway M) : Gateway M :=
  { g with context := { g.context.lasting with metrics := [] }, watch := none }

theorem FixedBy.occur [Log.Patterns] {c : Context M} (h : g.FixedBy c) (o : Occurrence) :
    (g.occur o).1.FixedBy c := by
  cases o with
  | file e =>
    obtain ⟨c', watch, hnotice, -⟩ := exists_notice_eq e g
    have hoccur : (g.occur (.file e)).1 = { g with context := c', watch } := hnotice
    rw [hoccur]
    exact ⟨h.1, h.2, h.3, h.4, h.5, h.6, h.7⟩
  | request | ready | traffic => exact ⟨h.1, h.2, h.3, h.4, h.5, h.6, h.7⟩

/-- **What is fixed stays what it is**, whatever happens to a process. -/
theorem FixedBy.serveAll [Log.Patterns] {c : Context M} (h : g.FixedBy c)
    (occurrences : List Occurrence) :
    (g.serveAll occurrences).1.FixedBy c := by
  induction occurrences generalizing g with
  | nil => exact h
  | cons o rest ih => exact ih (h.occur o)

theorem fixed_notice [Log.Patterns] (e : FileEvent) (g : Gateway M) :
    (g.notice e).fixed = g.fixed := by
  obtain ⟨c, watch, hnotice, hlasting⟩ := exists_notice_eq e g
  rw [hnotice, fixed, fixed, hlasting]

theorem fixed_ready [Log.Patterns] (value : Bool) (g : Gateway M) :
    (g.occur (.ready value)).1.fixed = (g.fixed.occur (.ready value)).1.fixed := by
  simp only [occur, fixed, Context.setReadiness, Context.lasting]
  cases value <;> cases g.context.readiness <;> rfl

/-- What happens to a process depends on what is fixed only, as far as that is concerned. -/
theorem fixed_occur [Log.Patterns] (o : Occurrence) (g : Gateway M) :
    (g.occur o).1.fixed = (g.fixed.occur o).1.fixed := by
  cases o with
  | request => rfl
  | file e => exact (fixed_notice e g).trans (fixed_notice e g.fixed).symm
  | ready value => exact fixed_ready value g
  | traffic step => rfl

/-- **Changes of the settings file make no difference** to what is fixed. -/
theorem fixed_serveAll [Log.Patterns] (h : g.fixed = g'.fixed) (occurrences : List Occurrence) :
    (g.serveAll occurrences).1.fixed =
      (g'.serveAll (occurrences.filter (!·.isFile))).1.fixed := by
  induction occurrences generalizing g g' with
  | nil => exact h
  | cons o rest ih =>
    have hsame : (g.occur o).1.fixed = (g'.occur o).1.fixed := by
      rw [fixed_occur, h, ← fixed_occur]
    cases o with
    | file e => exact ih ((fixed_notice e g).trans h)
    | request | ready | traffic => exact ih hsame

/-- Without changes of the settings file the settings stay what they are. -/
theorem settings_serveAll_filter [Log.Patterns] (occurrences : List Occurrence) (g : Gateway M) :
    (g.serveAll (occurrences.filter (!·.isFile))).1.context.settings = g.context.settings := by
  induction occurrences generalizing g with
  | nil => rfl
  | cons o rest ih =>
    cases hfile : o.isFile with
    | true =>
      rw [List.filter_cons_of_neg (by simp [hfile])]
      exact ih g
    | false =>
      rw [List.filter_cons_of_pos (by simp [hfile])]
      exact (ih (g.occur o).1).trans (unmoved_occur hfile g).settings

/-! ### The end -/

/-- What a shutdown tells depends on what is fixed only. -/
theorem report_shutdown (meanwhile : List TrafficStep) (g : Gateway M) :
    (g.shutdown meanwhile).2 = (g.fixed.shutdown meanwhile).2 := by
  have hreport (g : Gateway M) : (g.shutdown meanwhile).2 =
      ⟨.stopped, g.context.teardownFailures, (g.drain meanwhile).traffic.reports⟩ :=
    congrArg (ShutdownReport.mk _ _) (drains_shutdown meanwhile g)
  rw [hreport, hreport, traffic_drain, traffic_drain]
  rfl

theorem traffic_shutdown (meanwhile : List TrafficStep) (g : Gateway M) :
    (g.shutdown meanwhile).1.traffic = (g.fixed.shutdown meanwhile).1.traffic := by
  have htraffic (g : Gateway M) : (g.shutdown meanwhile).1.traffic =
      g.traffic.run (g.drainOrder meanwhile) :=
    (traffic_drained meanwhile g).trans (traffic_drain meanwhile g)
  rw [htraffic, htraffic]
  rfl

/-! ### Replies -/

/-- What a process replies once it has been running for so many seconds. -/
def replyAfter (uptimeSecs : Nat) (entrance : Entrance) (ids : FreshIds) (request : Request)
    (g : Gateway M) : Reply :=
  g.serving.service { g.live with uptimeSecs } ids entrance request

theorem replies_append [Log.Patterns] (first second : List Occurrence) (g : Gateway M) :
    (g.serveAll (first ++ second)).2 =
      (g.serveAll first).2 ++ ((g.serveAll first).1.serveAll second).2 := by
  induction first generalizing g with
  | nil => rfl
  | cons o rest ih =>
    have hreplies (occurrences : List Occurrence) : (g.serveAll (o :: occurrences)).2 =
        (g.occur o).2.toList ++ ((g.occur o).1.serveAll occurrences).2 := rfl
    rw [List.cons_append, hreplies, hreplies, ih, List.append_assoc]
    rfl

/-- The last reply in the course of occurrences that end with a request, in the first second. -/
theorem replies_request [Log.Patterns] (before : List Occurrence) (entrance : Entrance)
    (ids : FreshIds) (request : Request) (g : Gateway M) :
    (g.serveAll (before ++ [.request entrance ids request])).2 =
      (g.serveAll before).2 ++ [(g.serveAll before).1.replyAfter 0 entrance ids request] := by
  rw [replies_append]
  cases entrance <;> rfl

/-- Two processes with the same that is fixed differ for handlers in the mode at most. -/
theorem replyAfter_eq (h : g.fixed = g'.fixed) (uptimeSecs : Nat) (entrance : Entrance)
    (ids : FreshIds) (request : Request) :
    g.replyAfter uptimeSecs entrance ids request =
      g'.serving.service { g'.live with uptimeSecs, mode := g.context.settings.mode } ids entrance
        request := by
  have hserving : g.serving = g'.serving := congrArg (·.serving) h
  have hreadiness : g.context.readiness = g'.context.readiness := congrArg (·.context.readiness) h
  rw [replyAfter, live, hserving, hreadiness]
  rfl

/-- **Replies of two processes with the same that is fixed**: they come from the same handler with
the same call, and are the same unless that shows the mode. -/
theorem replies_of_fixed_eq (h : g.fixed = g'.fixed) (uptimeSecs : Nat) (entrance : Entrance)
    (ids : FreshIds) (request : Request) :
    let mode := g.context.settings.mode
    let reached := g.serving.reached? ids entrance request
    let reply := g.replyAfter uptimeSecs entrance ids request
    let other := g'.replyAfter uptimeSecs entrance ids request
    reply.calls = reached.toList.map (·.2) ∧ other.calls = reached.toList.map (·.2) ∧
    reply = g'.serving.service { g'.live with uptimeSecs, mode } ids entrance request ∧
    ((∀ handler call, reached = some (handler, call) → handler.IgnoresMode) → reply = other) ∧
    ∀ call, reached = some (infoHandler, call) →
      reply.AgreeBut (infoDocument mode uptimeSecs)
        (infoDocument g'.context.settings.mode uptimeSecs) other ∧
      (request.method = Verb.get.name →
        reply.response.status = 200 ∧ reply.response.body = infoDocument mode uptimeSecs) := by
  intro mode reached reply other
  let live : Live := { g'.live with uptimeSecs }
  have hreply : reply = g'.serving.service { live with mode } ids entrance request :=
    replyAfter_eq h uptimeSecs entrance ids request
  have hserving : g.serving = g'.serving := congrArg (·.serving) h
  have hreached : reached = g'.serving.reached? ids entrance request :=
    congrArg (·.reached? ids entrance request) hserving
  have hcalls (live : Live) : (g'.serving.service live ids entrance request).calls =
      reached.toList.map (·.2) := by
    rw [hreached]
    exact (Stacks.way_service entrance).calls live
  refine ⟨hreply ▸ hcalls _, hcalls live, hreply, fun hignores => ?_,
    fun call hinfo => ⟨?_, fun hget => ?_⟩⟩
  · rw [hreached] at hignores
    exact hreply.trans (Stacks.service_of_ignoresMode live mode hignores)
  · rw [hreached] at hinfo
    rw [hreply]
    exact Stacks.service_of_infoHandler live mode hinfo
  · rw [hreached] at hinfo
    rw [hreply]
    exact Stacks.response_of_infoHandler _ hget hinfo

end Gateway

/-! ### The comparison -/

namespace Context

/-- **New settings change nothing that is fixed at launch.** A process is launched, and whatever
happens while it serves is compared with the same without any change of its settings file. The
settings stay those of the launch in the second run; what is fixed is taken from those in the first
one as well. Both runs have the same stacks, the same readiness and the same connections, and a
shutdown comes to the same in both.

Each request after that gets to the same handler with the same call, if to any, and the reply is
that of the second run under the current mode. If the handler does not depend on the mode, the
replies are the same. If it is that of the system module, they are the same but for the mode in the
document, and a GET is shown the mode of the current settings. A process with the built-in modules
has no other handlers than these. -/
theorem reload_changes_mode_only [Log.Patterns] {M : Type} [Bootable M] {c : Context M}
    {g : Gateway M}
    (hlaunch : c.launch.2 = .ok g) (before : List Occurrence) :
    let s := c.bootstrap.1.settings
    let reloaded := (g.serveAll before).1
    let plain := (g.serveAll (before.filter (!·.isFile))).1
    let mode := reloaded.context.settings.mode
    (plain.context.settings = s ∧ reloaded.FixedBy c.bootstrap.1 ∧
      reloaded.serving = plain.serving ∧ reloaded.context.readiness = plain.context.readiness ∧
      reloaded.traffic = plain.traffic) ∧
    (∀ meanwhile, (reloaded.shutdown meanwhile).2 = (plain.shutdown meanwhile).2 ∧
      (reloaded.shutdown meanwhile).1.traffic = (plain.shutdown meanwhile).1.traffic) ∧
    (∀ entrance ids request, (g.serveAll (before ++ [.request entrance ids request])).2 =
      (g.serveAll before).2 ++ [reloaded.replyAfter 0 entrance ids request]) ∧
    (∀ uptimeSecs entrance ids request,
      let reached := reloaded.serving.reached? ids entrance request
      let reply := reloaded.replyAfter uptimeSecs entrance ids request
      let plainReply := plain.replyAfter uptimeSecs entrance ids request
      reply.calls = reached.toList.map (·.2) ∧ plainReply.calls = reached.toList.map (·.2) ∧
      reply = plain.serving.service { plain.live with uptimeSecs, mode } ids entrance request ∧
      ((∀ handler call, reached = some (handler, call) → handler.IgnoresMode) →
        reply = plainReply) ∧
      ∀ call, reached = some (infoHandler, call) →
        reply.AgreeBut (infoDocument mode uptimeSecs) (infoDocument s.mode uptimeSecs) plainReply ∧
        (request.method = Verb.get.name →
          reply.response.status = 200 ∧ reply.response.body = infoDocument mode uptimeSecs)) ∧
    ∀ (c : Context BuiltInModule) (g : Gateway BuiltInModule), c.http = {} → c.gateway = {} →
      c.launch.2 = .ok g → ∀ entrance ids request handler call,
        g.serving.reached? ids entrance request = some (handler, call) →
          handler.IgnoresMode ∨ handler = infoHandler := by
  intro s reloaded plain mode
  obtain ⟨-, hserve⟩ := launch_eq_ok (Prod.ext rfl hlaunch)
  have hsettings : plain.context.settings = s := by
    have hlaunched : g.context.settings = s := (launch_unmoved hlaunch).2.settings
    exact (Gateway.settings_serveAll_filter before g).trans hlaunched
  have hfixed : reloaded.fixed = plain.fixed := Gateway.fixed_serveAll rfl before
  have hby : reloaded.FixedBy c.bootstrap.1 := (fixedBy_serve hserve).serveAll before
  refine ⟨⟨hsettings, hby, congrArg (·.serving) hfixed, congrArg (·.context.readiness) hfixed,
    congrArg (·.traffic) hfixed⟩, fun meanwhile => ⟨?_, ?_⟩,
    fun entrance ids request => g.replies_request before entrance ids request,
    fun uptimeSecs entrance ids request => ?_, fun c g hhttp hgateway hlaunch => ?_⟩
  · rw [Gateway.report_shutdown, hfixed, ← Gateway.report_shutdown]
  · rw [Gateway.traffic_shutdown, hfixed, ← Gateway.traffic_shutdown]
  · have hreplies := Gateway.replies_of_fixed_eq hfixed uptimeSecs entrance ids request
    rwa [hsettings] at hreplies
  · intro entrance ids request handler call hreached
    have hempty : c.Serves fun h => h = healthHandler ∨ h = infoHandler :=
      ⟨hhttp ▸ Table.all_empty, hgateway ▸ Table.all_empty⟩
    rcases handler_of_launch BuiltInModule.adds hempty hlaunch hreached with rfl | rfl
    · exact .inl ignoresMode_healthHandler
    · exact .inr rfl

/-- A rehearsal of the health and the system module that watches its settings file. -/
def reloadingRehearsal : Context RehearsalModule :=
  { modules := [.builtIn { kind := .health }, .builtIn { kind := .system }]
    watched := some { name := "gateway.toml" } }

/-- A request for information on the process. -/
def infoRequest : Request := { method := Verb.get.name, uri := ⟨none, none, ⟨infoPath, none⟩⟩ }

set_option maxRecDepth 20000 in
/-- A file with another mode and other times is loaded. The mode is shown, and the times stay. -/
theorem reload_changes_mode_only_rehearsal :
    let before : List Occurrence :=
      [.file (.replaced "mode = \"debug\"\n[timeouts]\nrequest_secs = 1\nshutdown_ms = 60000")]
    ∃ g, reloadingRehearsal.launch.2 = .ok g ∧
      let reloaded := (g.serveAll before).1
      let reply := reloaded.replyAfter 7 .primary ⟨[], []⟩ infoRequest
      reloaded.context.settings =
        { mode := .debug, timeouts := { requestSecs := 1, shutdownMs := 60000 } } ∧
      reloaded.serving.requestMs = ({} : Settings).timeouts.requestMs ∧
      reloaded.shutdownMs = ({} : Settings).timeouts.shutdownMs ∧
      reply.AgreeBut (infoDocument .debug 7) (infoDocument .release 7)
        (g.replyAfter 7 .primary ⟨[], []⟩ infoRequest) ∧
      reply.response.body = infoDocument .debug 7 := by
  intro before
  obtain ⟨g, hg, call, hreached, hloaded⟩ : ∃ g, reloadingRehearsal.launch.2 = .ok g ∧
      ∃ call, g.serving.reached? ⟨[], []⟩ .primary infoRequest = some (infoHandler, call) ∧
        (g.serveAll before).1.context.settings =
          { mode := .debug, timeouts := { requestSecs := 1, shutdownMs := 60000 } } :=
    ⟨_, rfl, _, rfl, by decide +kernel⟩
  obtain ⟨⟨-, hfixed, hserving, -⟩, -, -, hreplies, -⟩ := reload_changes_mode_only hg before
  have hsame : (g.serveAll before).1.serving = g.serving := hserving
  obtain ⟨-, -, -, -, hinfo⟩ := hreplies 7 .primary ⟨[], []⟩ infoRequest
  rw [hsame, hloaded] at hinfo
  obtain ⟨hagree, hget⟩ := hinfo call hreached
  exact ⟨g, hg, hloaded, hfixed.requestMs, hfixed.shutdownMs, hagree, (hget rfl).2⟩

end Context

end ProtocolGateway

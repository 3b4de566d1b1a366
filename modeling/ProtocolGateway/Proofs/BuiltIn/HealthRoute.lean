import ProtocolGateway.Proofs.BuiltIn.ReservedPaths
import ProtocolGateway.Proofs.Http.BodyLimit
import ProtocolGateway.Proofs.Http.HealthCheck
import ProtocolGateway.Proofs.Settings.Repair

/-!
# The path of the health checks

Settings are refused if the path of their health checks is reserved. That is decided by another
comparison than the one by which requests are forwarded: it leaves out the slashes at the end of the
path, while the other one is made with the path as it is in a request. They agree. So the health
checks of a process with accepted settings are never forwarded. They are answered with the
readiness, unless they announce too long a body.

## Main definitions

* `Stacks.AnswersHealth`: what comes of a health check.

## Main results

* `Settings.exists_healthPath_problem_iff`: both comparisons agree.
* `Context.checksHealth_of_launch`: the path leads to the handler of the health checks.
* `launch_answers_health`: what comes of a GET request with that path.
-/

namespace ProtocolGateway

namespace Settings

variable {s : Settings}

/-- **The path of the health checks is refused** exactly if a request for it would be forwarded. -/
theorem exists_healthPath_problem_iff [Log.Patterns] (hreserved : prefixFault? s.gateway = none)
    (hslash : s.health.path.toList.head? = some '/')
    (hinfo : Text.trimEndOf '/' s.health.path.toList ≠ infoPath) {uri : Uri}
    (huri : uri.WellFormed) (hpath : uri.path = s.health.path.toList) :
    (∃ p ∈ s.problems, p.field = .healthPath) ↔
      (uri.below? s.gateway.trimmedPrefix).isSome := by
  have hnamed : (∃ p ∈ s.problems, p.field = .healthPath) ↔ (s.fault? .healthPath).isSome := by
    rw [← List.mem_map, Option.isSome_iff_ne_none]
    exact mem_named_iff
  have hfault : s.fault? .healthPath = healthFault? s.gateway s.health.path := rfl
  rw [hnamed, hfault, isSome_healthFault? hreserved hslash hinfo,
    Uri.below?_eq_map (trimmedPrefix_ne_nil_of_prefixFault? hreserved) huri, Option.isSome_map,
    hpath]

end Settings

namespace Context

variable {c : Context BuiltInModule} {s : Settings} {host : Host} {g : Gateway BuiltInModule}

/-- **The path of the health checks leads to their handler**, if it has no braces. -/
theorem checksHealth_of_launch [Log.Patterns] (hmodules : c.modules = BuiltInModule.registered)
    (h : c.Holds s host {} {}) (hvalid : s.Valid) (hplain : IsPlain s.gateway.trimmedPrefix)
    (hhealth : IsPlain s.health.path.toList) (hlaunch : c.launch.2 = .ok g) {request : Request}
    (hmethod : request.method = Verb.get.name) (hpath : request.uri.path = s.health.path.toList) :
    g.serving.ChecksHealth request ∧ 0 < g.serving.requestMs ∧
      g.serving.maxBodyBytes = s.limits.maxBodyBytes := by
  obtain ⟨health, f, htext, hserving⟩ := exists_serving_eq hmodules h hvalid hplain hlaunch
  have hchoose := choose_frontTable_health f (htext ▸ hhealth)
    (htext ▸ Settings.pathBelow?_healthPath hvalid) (htext ▸ Settings.healthPath_ne_infoPath hvalid)
  rw [hserving]
  refine ⟨⟨hmethod, ?_⟩, ?_, rfl⟩
  · rw [hmethod, hpath, ← htext]
    exact congrArg Prod.snd hchoose
  · exact Settings.requestMs_pos_of_valid hvalid

end Context

namespace Stacks

variable {g : Stacks} {request : Request}

/-- What comes of a health check where there is time: it is answered with the readiness by the
handler for that, or refused for its length. The secondary stack does not get it. -/
structure AnswersHealth (g : Stacks) (limit : Nat) (live : Live) (ids : FreshIds)
    (request : Request) : Prop where
  kept : g.sent? ids.primary .primary request = none
  answered : (∀ n, request.headers.announcedLength? = some n → n ≤ limit) →
    (∃ call, g.reached? ids .primary request = some (healthHandler, call)) ∧
      (g.primary live ids request).response.Tells live.readiness
  refused : ∀ n, request.headers.announcedLength? = some n → limit < n →
    g.reached? ids .primary request = none ∧ (g.primary live ids request).response.status = 413

theorem answersHealth (h : g.ChecksHealth request) (htime : 0 < g.requestMs) (live : Live)
    (ids : FreshIds) : g.AnswersHealth g.maxBodyBytes live ids request := by
  have hkept : g.sent? ids.primary .primary request = none :=
    sent?_of_ne_forward (by rw [h.2]; simp)
  rcases hchoose : g.front.choose request.method request.uri.path with ⟨route, choice⟩
  obtain rfl : choice = .endpoint (.handler healthHandler) := by
    have hhealth := h.2
    rwa [hchoose] at hhealth
  refine ⟨hkept, fun hlength => ?_, fun n hn hlong => ?_⟩
  · have hadmits : g.Admits request := ⟨htime, hlength⟩
    exact ⟨reached_of_choose_handler hchoose hadmits, (primary_tells h live ids).1 hadmits⟩
  · have hrefused : ¬g.Admits request := not_admits_of_announced hn hlong
    have hstatus : (g.primary live ids request).response.status =
        (if 0 < g.requestMs then 413 else 408) := (refused_primary hrefused).1
    refine ⟨?_, ?_⟩
    · rw [reached?, hkept]
      exact frontReached?_of_not_admits hrefused
    · rw [hstatus, if_pos htime]

end Stacks

/-- **The path of the health checks**, if the prefix is not at fault and the path starts with a
slash and is not that for information on the process. It is refused with the settings exactly if a
request for it would be forwarded. So in a process with accepted settings, both without braces, a
GET request for it is answered with the readiness, unless too long a body is announced: then it is
refused. It is never forwarded. -/
theorem launch_answers_health [Log.Patterns] {s : Settings}
    (hreserved : s.fault? .gatewayPrefix = none)
    (hslash : s.health.path.toList.head? = some '/')
    (hinfo : Text.trimEndOf '/' s.health.path.toList ≠ infoPath) {text : List Char}
    {request : Request} (huri : Uri.parse text = .ok request.uri)
    (hpath : request.uri.path = s.health.path.toList) :
    ((∃ p ∈ s.problems, p.field = .healthPath) ↔
      (request.uri.below? s.gateway.trimmedPrefix).isSome) ∧
    ∀ (c : Context BuiltInModule) (g : Gateway BuiltInModule),
      c.modules = BuiltInModule.registered → c.Holds s c.host {} {} → s.Valid →
      IsPlain s.gateway.trimmedPrefix → IsPlain s.health.path.toList → c.launch.2 = .ok g →
      request.method = Verb.get.name →
      ∀ (live : Live) (ids : FreshIds),
        g.serving.AnswersHealth s.limits.maxBodyBytes live ids request := by
  refine ⟨Settings.exists_healthPath_problem_iff hreserved hslash hinfo
    (Uri.wellFormed_of_parse huri) hpath, ?_⟩
  intro c g hmodules hholds hvalid hplain hhealth hlaunch hmethod live ids
  obtain ⟨hchecks, htime, hlimit⟩ :=
    Context.checksHealth_of_launch hmodules hholds hvalid hplain hhealth hlaunch hmethod hpath
  rw [← hlimit]
  exact Stacks.answersHealth hchecks htime live ids

/-- Where nothing is chosen, the path of the health checks is not below the prefix, and a process
that is ready says so. -/
theorem launch_answers_health_default :
    ∃ g, (builtInContext {}).launch.2 = .ok g ∧
      ∃ uri, Uri.parse "/healthz?a".toList = .ok uri ∧
        uri.below? ({} : Settings).gateway.trimmedPrefix = none ∧
        (g.serving.primary g.live ⟨[], []⟩ { method := "GET", uri }).response.Tells .ready := by
  obtain ⟨g, hg⟩ : ∃ g, (builtInContext {}).launch.2 = .ok g := ⟨_, rfl⟩
  let request : Request :=
    { method := "GET", uri := ⟨none, none, ⟨"/healthz".toList, some ['a']⟩⟩ }
  have huri : Uri.parse "/healthz?a".toList = .ok request.uri := rfl
  have hvalid : ({} : Settings).Valid := by decide +kernel
  obtain ⟨hagree, hanswers⟩ := launch_answers_health (s := {}) (by decide +kernel) (by decide)
    (by decide +kernel) huri rfl
  refine ⟨g, hg, request.uri, huri, ?_, ?_⟩
  · rw [← Option.not_isSome_iff_eq_none, ← hagree, hvalid]
    simp
  · have hready : g.live.readiness = .ready := by
      cases hg
      rfl
    rw [← hready]
    refine ((hanswers (builtInContext {}) g rfl ⟨rfl, rfl, rfl, rfl⟩ hvalid (by decide) (by decide)
      hg rfl g.live ⟨[], []⟩).answered fun n hn => ?_).2
    cases hn

/-- Accepted settings do not make every GET request for the path get to the handler: one that
announces too long a body is refused. -/
theorem launch_refuses_health :
    let s : Settings := { limits := ⟨4⟩ }
    s.Valid ∧ IsPlain s.gateway.trimmedPrefix ∧ IsPlain s.health.path.toList ∧
      ∃ g, (builtInContext s).launch.2 = .ok g ∧
        ∃ uri, Uri.parse "/healthz".toList = .ok uri ∧ uri.path = s.health.path.toList ∧
          let request : Request :=
            { method := "GET", uri, headers := [("content-length", bytesOf "5")]
              body := { bytes := bytesOf "hello" } }
          (g.serving.reached? ⟨[], []⟩ .primary request).isNone ∧
            (g.serving.primary g.live ⟨[], []⟩ request).response.status = 413 :=
  ⟨by decide +kernel, by decide, by decide, _, rfl, _, rfl, rfl, by decide +kernel,
    by decide +kernel⟩

end ProtocolGateway

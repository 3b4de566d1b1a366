import ProtocolGateway.Proofs.BuiltIn.Launch
import ProtocolGateway.Proofs.Http.Admission

/-!
# Reserved paths beside the built-in modules

Every reserved path is forwarded, except where the path for information on the process is reserved
itself: there the route of the built-in modules goes before the routes that forward, or joins one of
them. Accepting settings does not rule that out. It does so for the path of the health checks.

## Main definitions

* `Settings.KeepsReserved`: settings with which a request for a reserved path is not forwarded.

## Main results

* `Context.exists_serving_eq`: the stacks of a process with the built-in modules.
* `launch_forwards_reserved`: which requests for a reserved path are forwarded.
* `launch_keeps_reserved`: settings with which not all of them are.
-/

namespace ProtocolGateway

namespace Context

variable {c : Context BuiltInModule} {s : Settings} {host : Host} {g : Gateway BuiltInModule}

/-- **The stacks of a process** with the built-in modules and a prefix without braces. -/
theorem exists_serving_eq [Log.Patterns] (hmodules : c.modules = BuiltInModule.registered)
    (h : c.Holds s host {} {})
    (hvalid : s.Valid) (hplain : IsPlain s.gateway.trimmedPrefix) (hlaunch : c.launch.2 = .ok g) :
    ∃ (health : Pattern) (f : ForwardPatterns s.gateway.trimmedPrefix),
      health.text = s.health.path.toList ∧
      g.serving =
        { front := frontTable health f, back := gatewayInfoTable
          reserved := s.gateway.trimmedPrefix, requestMs := s.timeouts.requestMs
          maxBodyBytes := s.limits.maxBodyBytes } := by
  rcases hlaunched : c.launch with ⟨left, result⟩
  obtain rfl : result = .ok g := by rwa [hlaunched] at hlaunch
  obtain ⟨hdone, hserve⟩ := launch_eq_ok hlaunched
  rcases bootstrap_registered hmodules h hvalid with
    ⟨cause, -, hfailed⟩ | ⟨-, hcrashed⟩ | ⟨health, htext, -, hholds⟩
  · rw [hdone] at hfailed; cases hfailed
  · rw [hdone] at hcrashed; cases hcrashed
  · obtain ⟨-, hbuild, -⟩ := serve_eq_ok hserve
    rw [hholds.settings, hholds.http, hholds.gateway] at hbuild
    obtain ⟨f⟩ := ForwardPatterns.exists_of_isPathLike hplain (Stacks.isPathLike_of_build? hbuild)
    rw [Stacks.build?_builtInTable f hplain (htext ▸ Settings.pathBelow?_healthPath hvalid)
      (htext ▸ Settings.healthPath_ne_infoPath hvalid)] at hbuild
    exact ⟨health, f, htext, (Option.some.inj hbuild).symm⟩

end Context

/-- **Which requests for a reserved path are forwarded**, in a process with the built-in modules and
accepted settings whose prefix has no braces. They all are, unless they are for the path for
information on the process; those are forwarded only if that path is the reserved one and the method
is neither GET nor HEAD, and otherwise the route of the built-in modules has them, with an answer or
with a wrong method. A request that is forwarded is handed over to the secondary stack, unless too
long a body is announced. -/
theorem launch_forwards_reserved [Log.Patterns] {c : Context BuiltInModule}
    {g : Gateway BuiltInModule}
    (hmodules : c.modules = BuiltInModule.registered) (hhttp : c.http = {})
    (hgateway : c.gateway = {}) (hvalid : c.settings.Valid)
    (hplain : IsPlain c.settings.gateway.trimmedPrefix) (hlaunch : c.launch.2 = .ok g)
    {text : List Char} {request : Request} (huri : Uri.parse text = .ok request.uri)
    (hpath : request.uri.path = c.settings.gateway.normalizedPrefix ∨
      c.settings.gateway.normalizedPrefix ++ ['/'] <+: request.uri.path) :
    (g.serving.Forwards request ↔ (request.uri.path = infoPath →
      c.settings.gateway.normalizedPrefix = infoPath ∧
        request.method ≠ Verb.get.name ∧ request.method ≠ Verb.head.name)) ∧
    (request.uri.path = infoPath →
      g.serving.front.choose request.method request.uri.path =
        (some infoPath, infoChoice c.settings.gateway.normalizedPrefix request.method)) ∧
    (g.serving.Forwards request →
      (∀ n, request.headers.announcedLength? = some n → n ≤ c.settings.limits.maxBodyBytes) →
      g.serving.HandsOver request) := by
  rw [Settings.normalizedPrefix_of_valid hvalid] at hpath ⊢
  obtain ⟨health, f, htext, hserving⟩ :=
    Context.exists_serving_eq hmodules ⟨rfl, rfl, hhttp, hgateway⟩ hvalid hplain hlaunch
  have hhealth : pathBelow? c.settings.gateway.trimmedPrefix health.text = none :=
    htext ▸ Settings.pathBelow?_healthPath hvalid
  have hinfo : health.text ≠ infoPath := htext ▸ Settings.healthPath_ne_infoPath hvalid
  have hbelow : (pathBelow? c.settings.gateway.trimmedPrefix request.uri.path).isSome :=
    isSome_pathBelow?_iff.2 hpath
  have hchoose (hown : request.uri.path = infoPath) :
      g.serving.front.choose request.method request.uri.path =
        (some infoPath, infoChoice c.settings.gateway.trimmedPrefix request.method) := by
    rw [hserving, hown]
    exact choose_frontTable_infoPath f hinfo _
  refine ⟨⟨fun hforwards hown => ?_, fun hown => ?_⟩, hchoose, fun hforwards hlength => ?_⟩
  · rw [Stacks.Forwards, hchoose hown] at hforwards
    exact infoChoice_eq_forward_iff.1 hforwards
  · by_cases hpath : request.uri.path = infoPath
    · rw [Stacks.Forwards, hchoose hpath]
      exact infoChoice_eq_forward_iff.2 (hown hpath)
    · rw [Stacks.Forwards, hserving]
      exact choose_frontTable_of_below hplain f hhealth hbelow hpath _
  · have hadmits : g.serving.Admits request := by
      rw [hserving]
      exact ⟨Settings.requestMs_pos_of_valid hvalid, hlength⟩
    have hleft : (request.uri.below? g.serving.reserved).isSome := by
      rw [hserving, Uri.below?_eq_map (Settings.trimmedPrefix_ne_nil hvalid)
        (Uri.wellFormed_of_parse huri), Option.isSome_map]
      exact hbelow
    obtain ⟨uri, huri⟩ := Option.isSome_iff_exists.1 hleft
    exact Stacks.handsOver_of_forwards hforwards hadmits huri

/-- With the prefix that holds where none is chosen, a request below it is handed over. -/
theorem launch_forwards_reserved_default :
    ∃ g, (builtInContext {}).launch.2 = .ok g ∧
      ∃ uri, Uri.parse "/grpc/a?x".toList = .ok uri ∧
        g.serving.HandsOver { method := "PUT", uri } := by
  obtain ⟨g, hg⟩ : ∃ g, (builtInContext {}).launch.2 = .ok g := ⟨_, rfl⟩
  let request : Request :=
    { method := "PUT", uri := ⟨none, none, ⟨"/grpc/a".toList, some ['x']⟩⟩ }
  have huri : Uri.parse "/grpc/a?x".toList = .ok request.uri := rfl
  have hbelow : (builtInContext {}).settings.gateway.normalizedPrefix ++ ['/'] <+:
      request.uri.path := by decide
  obtain ⟨hforwards, -, hhanded⟩ := launch_forwards_reserved (c := builtInContext {})
    rfl rfl rfl (by decide +kernel) (by decide) hg huri (.inr hbelow)
  refine ⟨g, hg, request.uri, huri, hhanded (hforwards.2 fun hinfo => ?_) fun n hn => by cases hn⟩
  exact absurd hinfo (by decide)

/-- The settings are accepted and a process comes up with them, but a request for a reserved path is
not forwarded: the response has the status. -/
def Settings.KeepsReserved [Log.Patterns] (s : Settings) (method target : String) (status : Nat) :
    Prop :=
  s.Valid ∧ ∃ g, (builtInContext s).launch.2 = .ok g ∧
    ∃ uri, Uri.parse target.toList = .ok uri ∧
      (uri.path = s.gateway.normalizedPrefix ∨ s.gateway.normalizedPrefix ++ ['/'] <+: uri.path) ∧
      ¬g.serving.Forwards { method, uri } ∧
      (g.serving.primary g.live ⟨[], []⟩ { method, uri }).response.status = status

/-- This happens where the path for information on the process is below the prefix, which is then
answered or has a wrong method; where the prefix has doubled braces, so that its routes have another
path; and where the path of the health checks is written with them and stands for that of the
prefix. -/
theorem launch_keeps_reserved :
    ({ gateway := ⟨"/api"⟩ } : Settings).KeepsReserved "GET" "/api/system/info" 200 ∧
    ({ gateway := ⟨"/api"⟩ } : Settings).KeepsReserved "POST" "/api/system/info" 405 ∧
    ({ gateway := ⟨"/a\x7b\x7bb"⟩ } : Settings).KeepsReserved "PUT" "/a\x7b\x7bb/x" 404 ∧
    ({ gateway := ⟨"/a\x7bx\x7d"⟩, health := ⟨"/a\x7b\x7bx\x7d\x7d"⟩ } : Settings).KeepsReserved
      "GET" "/a\x7bx\x7d" 200 := by
  refine ⟨?_, ?_, ?_, ?_⟩
  · exact ⟨by decide +kernel, _, rfl, _, rfl, by decide +kernel, by decide +kernel,
      by decide +kernel⟩
  · exact ⟨by decide +kernel, _, rfl, _, rfl, by decide +kernel, by decide +kernel,
      by decide +kernel⟩
  · exact ⟨by decide +kernel, _, rfl, _, rfl, by decide +kernel, by decide +kernel,
      by decide +kernel⟩
  · exact ⟨by decide +kernel, _, rfl, _, rfl, by decide +kernel, by decide +kernel,
      by decide +kernel⟩

end ProtocolGateway

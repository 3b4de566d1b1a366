import ProtocolGateway.Proofs.Http.Identity
import ProtocolGateway.Rehearsal.Handlers

/-!
# The limit on bodies

Bodies have a limit, and two places keep to it. A request that announces a longer body is refused by
the layers of the primary stack, before anything is counted and before any handler sees it. Every
other request gets a cap on its body, which is no larger than the limit, and keeps it on its way to
a handler, also through the secondary stack. A body that is longer than its cap cannot be read at
all. So it does not matter what a client announces, or whether it does.

## Main definitions

* `Handler.ReadsBody`: a handler that needs the body.

## Main results

* `Stacks.body_eq_of_reached`: what the handler that a request gets to can read of the body.
* `Stacks.refused_primary`: what becomes of a request that announces too long a body.
* `Stacks.body_limit`: what becomes of bodies that are too long.
-/

namespace ProtocolGateway

namespace Body

variable {b : Body} {n : Nat} {bytes : Bytes}

/-- A body is read as it is, or not at all. -/
theorem eq_of_read? (h : b.read? = some bytes) : bytes = b.bytes := by
  rw [read?] at h
  split at h
  · exact (Option.some.inj h).symm
  · cases h

theorem eq_of_whole? (h : b.whole? = some bytes) : bytes = b.bytes :=
  eq_of_read? (b := b.limit wholeLimit) h

/-- A body that is longer than its cap cannot be read. -/
theorem read?_limit_of_lt (h : n < b.bytes.length) : (b.limit n).read? = none := by
  rw [read?_limit, if_neg (Nat.not_le.2 h)]

theorem whole?_limit_of_lt (h : n < b.bytes.length) : (b.limit n).whole? = none := by
  rw [whole?, read?_limit, read?_limit_of_lt h, ite_self]

end Body

/-- A handler that needs the body: if it can be read in neither way, that is what the handler
answers. -/
def Handler.ReadsBody (h : Handler) : Prop :=
  ∀ live call, call.content = none → call.whole = none →
    (h live call).response = .unreadableBody

theorem Rehearsal.readsBody_echo : echo.ReadsBody := by
  intro live call _ hwhole
  simp only [echo, hwhole]

theorem Rehearsal.delay_echo (live : Live) (call : Call) : (echo live call).delay = 0 := by
  rw [echo]
  cases call.whole <;> rfl

namespace Stacks

variable {g : Stacks} {live : Live} {ids : FreshIds} {request sent : Request} {fresh : Bytes}
variable {route : Option (List Char)} {handler : Handler} {call : Call}

/-! ### What can be read -/

theorem Admits.bodyCap_le (h : g.Admits request) :
    request.bodyCap g.maxBodyBytes ≤ g.maxBodyBytes := by
  rw [Request.bodyCap]
  cases hannounced : request.headers.announcedLength? with
  | none => exact Nat.le_refl _
  | some n => exact h.length n hannounced

theorem admits_of_sent (h : g.sent? fresh .primary request = some sent) : g.Admits request := by
  by_contra hrefused
  rw [sent?_of_not_admits hrefused] at h
  cases h

theorem body_sent (h : g.sent? fresh .primary request = some sent) :
    sent.body = request.body.limit (request.bodyCap g.maxBodyBytes) := by
  rw [sent?] at h
  split at h
  · split at h
    · obtain ⟨uri, -, rfl⟩ := Option.map_eq_some_iff.1 h
      rfl
    · cases h
  · cases h

theorem body_of_backReached (h : g.backReached? fresh request = some (handler, call)) :
    call.content = request.body.read? ∧ call.whole = request.body.whole? := by
  rw [backReached?] at h
  split at h
  · split at h
    · obtain ⟨rfl, rfl⟩ := Prod.mk.inj (Option.some.inj h)
      exact ⟨rfl, rfl⟩
    · cases h
  · cases h

theorem body_of_frontReached (h : g.frontReached? fresh request = some (handler, call)) :
    g.Admits request ∧
      call.content = (request.body.limit (request.bodyCap g.maxBodyBytes)).read? ∧
      call.whole = (request.body.limit (request.bodyCap g.maxBodyBytes)).whole? := by
  rw [frontReached?] at h
  split at h
  · next route h' _ =>
    split at h
    · next hadmits =>
      obtain ⟨rfl, rfl⟩ := Prod.mk.inj (Option.some.inj h)
      refine ⟨hadmits, ?_⟩
      cases route <;> exact ⟨rfl, rfl⟩
    · cases h
  · cases h

/-- **What the handler can read** that a request gets to, whichever table it stands in: the body,
with the cap that the primary stack has put on it. -/
theorem body_eq_of_reached (h : g.reached? ids .primary request = some (handler, call)) :
    g.Admits request ∧
      call.content = (request.body.limit (request.bodyCap g.maxBodyBytes)).read? ∧
      call.whole = (request.body.limit (request.bodyCap g.maxBodyBytes)).whole? := by
  rw [reached?] at h
  split at h
  · next sent hsent =>
    obtain ⟨hcontent, hwhole⟩ := body_of_backReached h
    rw [body_sent hsent] at hcontent hwhole
    exact ⟨admits_of_sent hsent, hcontent, hwhole⟩
  · exact body_of_frontReached h

theorem body_of_reached (h : g.reached? ids .primary request = some (handler, call)) :
    ∃ cap ≤ g.maxBodyBytes, call.content = (request.body.limit cap).read? ∧
      call.whole = (request.body.limit cap).whole? := by
  obtain ⟨hadmits, hcontent, hwhole⟩ := body_eq_of_reached h
  exact ⟨_, hadmits.bodyCap_le, hcontent, hwhole⟩

/-- A body that is longer than the limit cannot be read. -/
theorem unreadable_of_reached (h : g.reached? ids .primary request = some (handler, call))
    (hlong : g.maxBodyBytes < request.body.bytes.length) :
    call.content = none ∧ call.whole = none := by
  obtain ⟨cap, hcap, hcontent, hwhole⟩ := body_of_reached h
  have hlong : cap < request.body.bytes.length := hcap.trans_lt hlong
  rw [hcontent, hwhole]
  exact ⟨Body.read?_limit_of_lt hlong, Body.whole?_limit_of_lt hlong⟩

/-- What is read is the body, and within the limit. -/
theorem readable_of_reached (h : g.reached? ids .primary request = some (handler, call))
    {body : Bytes} (hread : call.content = some body ∨ call.whole = some body) :
    body = request.body.bytes ∧ body.length ≤ g.maxBodyBytes := by
  obtain ⟨cap, -, hcontent, hwhole⟩ := body_of_reached h
  have hbody : body = (request.body.limit cap).bytes := by
    rcases hread with hread | hread
    · exact Body.eq_of_read? (hcontent.symm.trans hread)
    · exact Body.eq_of_whole? (hwhole.symm.trans hread)
  refine ⟨hbody, ?_⟩
  by_contra hlong
  have hlong : g.maxBodyBytes < request.body.bytes.length := by
    rw [hbody] at hlong
    exact Nat.lt_of_not_le hlong
  obtain ⟨hnone, hnone'⟩ := unreadable_of_reached h hlong
  rcases hread with hread | hread
  · rw [hnone] at hread
    cases hread
  · rw [hnone'] at hread
    cases hread

/-- A request that is let through gets to the handler that the primary table chooses. -/
theorem reached_of_choose_handler
    (hchoose : g.front.choose request.method request.uri.path =
      (route, .endpoint (.handler handler))) (hadmits : g.Admits request) :
    ∃ call, g.reached? ids .primary request = some (handler, call) := by
  have hsent : g.sent? ids.primary .primary request = none :=
    sent?_of_ne_forward (by rw [hchoose]; simp)
  simp only [reached?, hsent, frontReached?, hchoose, if_pos hadmits]
  exact ⟨_, rfl⟩

/-! ### What is refused -/

theorem not_admits_of_announced {n : Nat} (hn : request.headers.announcedLength? = some n)
    (hlong : g.maxBodyBytes < n) : ¬g.Admits request :=
  fun hadmits => Nat.not_le.2 hlong (hadmits.length n hn)

/-- **A request that is not let through** gets to no handler and is not counted. -/
theorem refused_primary (hrefused : ¬g.Admits request) :
    (g.primary live ids request).response.status = (if 0 < g.requestMs then 413 else 408) ∧
      (g.primary live ids request).calls = [] ∧
      ∀ metrics : Metrics, metrics.addReply (g.primary live ids request) = metrics := by
  rcases hchoose : g.front.choose request.method request.uri.path with ⟨route, choice⟩
  have way : g.Way ids .primary request none fun live => g.primary live ids request :=
    way_primary_of_not_admits hrefused
  have hnothing (r : Request) : (Layer.timed g.requestMs (fun _ => refusal) r).events = [] := by
    rw [Layer.timed]
    split <;> rfl
  refine ⟨?_, way.calls live, fun metrics => ?_⟩
  · rw [primary_eq_shell hchoose, if_neg hrefused, status_shell, Reply.within]
    exact apply_ite Response.status _ _ _
  · rw [Metrics.addReply, primary_eq_shell hchoose, if_neg hrefused, events_shell, hnothing]
    rfl

/-- **The limit on bodies.** No handler gets a body that is longer than the limit. A request whose
announced length is longer is refused, without being counted, and gets to no handler. A handler that
needs a body which is longer without that cannot read it, and if it says so in time, that is the
answer. -/
theorem body_limit {s : Settings} {http gateway : Table Handler}
    (hbuild : build? s http gateway = some g) (live : Live) (ids : FreshIds) (request : Request) :
    let limit := s.limits.maxBodyBytes
    let reply := g.primary live ids request
    (∀ call ∈ reply.calls, ∀ body, call.content = some body ∨ call.whole = some body →
      body = request.body.bytes ∧ body.length ≤ limit) ∧
    (∀ n, request.headers.announcedLength? = some n → limit < n →
      reply.response.status = (if s.timeouts.requestSecs = 0 then 408 else 413) ∧
      reply.calls = [] ∧ ∀ metrics : Metrics, metrics.addReply reply = metrics) ∧
    (limit < request.body.bytes.length →
      ∀ handler call, g.reached? ids .primary request = some (handler, call) →
        reply.calls = [call] ∧ call.content = none ∧ call.whole = none ∧
        (handler.ReadsBody → (handler live call).delay < s.timeouts.requestMs →
          reply.response.status = 413)) := by
  intro limit reply
  obtain ⟨-, -, -, -, -, hms, hlimit⟩ := build?_eq_some hbuild
  have way : g.Way ids .primary request (g.reached? ids .primary request)
      fun live => g.service live ids .primary request := way_service .primary
  have hcalls : reply.calls = (g.reached? ids .primary request).toList.map (·.2) := way.calls live
  refine ⟨?_, ?_, ?_⟩
  · intro call hcall body hread
    rw [hcalls] at hcall
    obtain ⟨⟨handler, _⟩, hreached, rfl⟩ := List.mem_map.1 hcall
    obtain ⟨hbody, hle⟩ := readable_of_reached (Option.mem_toList.1 hreached) hread
    exact ⟨hbody, hle.trans_eq hlimit⟩
  · intro n hn hlong
    have hrefused : ¬g.Admits request := not_admits_of_announced hn (hlimit.trans_lt hlong)
    have hstatus : reply.response.status = (if 0 < g.requestMs then 413 else 408) :=
      (refused_primary hrefused).1
    refine ⟨?_, (refused_primary hrefused).2⟩
    have htime : g.requestMs = s.timeouts.requestSecs * 1000 := hms
    rw [hstatus]
    by_cases hzero : s.timeouts.requestSecs = 0
    · rw [if_pos hzero, if_neg (by omega)]
    · rw [if_neg hzero, if_pos (by omega)]
  · intro hlong handler call hreached
    obtain ⟨hcontent, hwhole⟩ := unreadable_of_reached hreached (hlimit.trans_lt hlong)
    refine ⟨?_, hcontent, hwhole, fun hreads htime => ?_⟩
    · rw [hcalls, hreached]
      rfl
    · have hstatus := (way.in_time live hreached (htime.trans_eq hms.symm)).2
      rw [hreads live call hcontent hwhole] at hstatus
      exact hstatus

/-- A table that answers uploads with what it got. -/
def echoing : Table Handler :=
  { routes := [⟨⟨"/up".toList, "/up".toList.map .literal, rfl⟩, .one .post Rehearsal.echo⟩] }

/-- An upload of five octets, which announces some length. -/
def upload (announced : String) : Request :=
  { method := "POST", uri := ⟨none, none, ⟨"/up".toList, none⟩⟩
    headers := [("content-length", bytesOf announced)], body := { bytes := bytesOf "hello" } }

/-- With a limit of four octets an upload of five is refused if it announces them, and cannot be
read if it announces less. -/
theorem body_limit_upload :
    ∃ g, build? { limits := { maxBodyBytes := 4 } } echoing {} = some g ∧
      (g.primary {} ⟨[], []⟩ (upload "5")).response.status = 413 ∧
      (g.primary {} ⟨[], []⟩ (upload "5")).calls = [] ∧
      (g.primary {} ⟨[], []⟩ (upload "3")).response.status = 413 := by
  have hsome : (build? { limits := { maxBodyBytes := 4 } } echoing {}).isSome = true := by rfl
  obtain ⟨g, hg⟩ := Option.isSome_iff_exists.1 hsome
  obtain ⟨-, -, -, -, -, hms, hmax⟩ := build?_eq_some hg
  have hlimit := body_limit hg {} ⟨[], []⟩
  have hannounced : (upload "5").headers.announcedLength? = some 5 := by decide +kernel
  have hless : (upload "3").headers.announcedLength? = some 3 := by decide +kernel
  have hadmits : g.Admits (upload "3") := by
    refine ⟨by rw [hms]; decide, fun n hn => ?_⟩
    obtain rfl := Option.some.inj (hless.symm.trans hn)
    rw [hmax]
    decide
  have hchoose : g.front.choose "POST" "/up".toList =
      (some "/up".toList, .endpoint (.handler Rehearsal.echo)) :=
    (choose_front_of_pathBelow?_eq_none hg (by decide) (by decide +kernel) _).trans rfl
  obtain ⟨call, hreached⟩ : ∃ call, g.reached? ⟨[], []⟩ .primary (upload "3") =
      some (Rehearsal.echo, call) := reached_of_choose_handler hchoose hadmits
  obtain ⟨hstatus, hcalls, -⟩ := (hlimit (upload "5")).2.1 5 hannounced (by decide)
  obtain ⟨-, -, -, hread⟩ := (hlimit (upload "3")).2.2 (by decide) _ _ hreached
  refine ⟨g, hg, hstatus, hcalls, hread Rehearsal.readsBody_echo ?_⟩
  rw [Rehearsal.delay_echo]
  decide

/-- **Without any time** the answer to a body that is announced as too long is that time is up. -/
theorem body_limit_without_time :
    ∃ g, build? { timeouts := { requestSecs := 0 }, limits := { maxBodyBytes := 4 } } echoing {} =
        some g ∧
      (upload "5").headers.announcedLength? = some 5 ∧
      (g.primary {} ⟨[], []⟩ (upload "5")).response.status = 408 := by
  have hsome : (build? { timeouts := { requestSecs := 0 }, limits := { maxBodyBytes := 4 } }
      echoing {}).isSome = true := by rfl
  obtain ⟨g, hg⟩ := Option.isSome_iff_exists.1 hsome
  obtain ⟨-, -, -, -, -, hms, -⟩ := build?_eq_some hg
  have hrefused : ¬g.Admits (upload "5") := fun hadmits => by
    have htime := hadmits.time
    rw [hms] at htime
    exact Nat.lt_irrefl 0 htime
  refine ⟨g, hg, by decide +kernel, ?_⟩
  rw [(refused_primary hrefused).1, hms]
  rfl

end Stacks

end ProtocolGateway

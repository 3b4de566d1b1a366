import ProtocolGateway.Proofs.Http.BodyLimit

/-!
# Bodies that are asked for as a whole

The limit of the settings is not the only one. A body that a handler asks for as a whole has a fixed
limit as well, which no layer of the stacks lifts. If the settings ask for less than that, theirs is
the one that counts. If they ask for more, they let through what such a handler cannot read: the
layers refuse nothing within the limit of the settings, and yet the answer is that the body is too
long. Who reads the body bit by bit gets it.

## Main definitions

* `Request.Truthful`: a client that announces the length of its body, if any.
* `Handler.ReadsWhole`: a handler that needs the body as a whole.

## Main results

* `Stacks.read_of_reached`: what a handler can read of the body of a truthful request.
* `Stacks.whole_limit`: which of the two limits counts.
* `Stacks.whole_limit_above`: a body within the limit of the settings that is refused as too long.
-/

namespace ProtocolGateway

namespace Body

variable {b : Body} {n : Nat}

theorem read?_of_uncapped (h : b.cap = none) : b.read? = some b.bytes := by
  rw [read?, h, Option.all_none, if_pos rfl]

/-- Without a cap there is only the limit for whole bodies. -/
theorem whole?_of_uncapped (h : b.cap = none) :
    b.whole? = if b.bytes.length ≤ wholeLimit then some b.bytes else none := by
  rw [whole?, read?_limit, read?_of_uncapped h]

/-- A cap comes on top of the limit for whole bodies. -/
theorem whole?_limit : (b.limit n).whole? = if b.bytes.length ≤ n then b.whole? else none := by
  by_cases h : b.bytes.length ≤ n
  · rw [whole?_limit_of_le h, if_pos h]
  · rw [whole?_limit_of_lt (Nat.lt_of_not_le h), if_neg h]

end Body

/-- A request as a client sends it, with no cap on its body yet, that announces the length of that
body or none. -/
structure Request.Truthful (request : Request) : Prop where
  announced : ∀ n, request.headers.announcedLength? = some n → n = request.body.bytes.length
  uncapped : request.body.cap = none

/-- The cap on the body of a truthful request is never too low, except by the limit itself. -/
theorem Request.Truthful.le_bodyCap_iff {request : Request} (h : request.Truthful) {limit : Nat}
    (hadmits : ∀ n, request.headers.announcedLength? = some n → n ≤ limit) :
    request.body.bytes.length ≤ request.bodyCap limit ↔ request.body.bytes.length ≤ limit := by
  rw [bodyCap]
  cases hannounced : request.headers.announcedLength? with
  | none => exact Iff.rfl
  | some n =>
    obtain rfl := h.announced n hannounced
    exact ⟨fun _ => hadmits _ hannounced, fun _ => le_rfl⟩

/-- A handler that needs the body as a whole, and says so if it does not get that. -/
def Handler.ReadsWhole (h : Handler) : Prop :=
  ∀ live call, call.whole = none → (h live call).response = .unreadableBody

theorem Rehearsal.readsWhole_echo : echo.ReadsWhole := by
  intro live call hwhole
  simp only [echo, hwhole]

namespace Stacks

variable {g : Stacks} {ids : FreshIds} {request : Request} {handler : Handler} {call : Call}

/-- A truthful request with a body within the limit is not refused. -/
theorem admits_of_truthful (htruthful : request.Truthful) (htime : 0 < g.requestMs)
    (hbody : request.body.bytes.length ≤ g.maxBodyBytes) : g.Admits request := by
  refine ⟨htime, fun n hn => ?_⟩
  rw [htruthful.announced n hn]
  exact hbody

/-- **What a handler can read** of the body of a truthful request: bit by bit what is within the
limit of the stacks, and as a whole what is within both limits. -/
theorem read_of_reached (htruthful : request.Truthful)
    (h : g.reached? ids .primary request = some (handler, call)) :
    call.content =
        (if request.body.bytes.length ≤ g.maxBodyBytes then some request.body.bytes else none) ∧
      call.whole =
        if request.body.bytes.length ≤ min g.maxBodyBytes Body.wholeLimit then
          some request.body.bytes
        else none := by
  obtain ⟨hadmits, hcontent, hwhole⟩ := body_eq_of_reached h
  have hcap := htruthful.le_bodyCap_iff hadmits.length
  constructor
  · rw [hcontent, Body.read?_limit, Body.read?_of_uncapped htruthful.uncapped]
    simp only [hcap]
  · rw [hwhole, Body.whole?_limit, Body.whole?_of_uncapped htruthful.uncapped]
    simp only [hcap, ← ite_and, Nat.le_min]

/-- **Which of the two limits counts.** A truthful request with a body within the limit of the
settings is let through. The handler that a truthful request gets to can read the body bit by bit
exactly if it is within the limit of the settings, and as a whole exactly if it is within the
smaller one of the two limits. In time the answer is that of the handler, which if it needs the body
as a whole and does not get that says that the body is too long. -/
theorem whole_limit {s : Settings} {http gateway : Table Handler}
    (hbuild : build? s http gateway = some g) (live : Live) (ids : FreshIds)
    (htruthful : request.Truthful) :
    let limit := s.limits.maxBodyBytes
    let body := request.body.bytes
    let reply := g.primary live ids request
    (body.length ≤ limit → s.timeouts.requestSecs ≠ 0 → g.Admits request) ∧
    ∀ handler call, g.reached? ids .primary request = some (handler, call) →
      reply.calls = [call] ∧
      call.content = (if body.length ≤ limit then some body else none) ∧
      call.whole = (if body.length ≤ min limit Body.wholeLimit then some body else none) ∧
      ((handler live call).delay < s.timeouts.requestMs →
        reply.response.status = (handler live call).response.status ∧
        (handler.ReadsWhole → min limit Body.wholeLimit < body.length →
          reply.response.status = 413)) := by
  intro limit body reply
  obtain ⟨-, -, -, -, -, hms, hlimit⟩ := build?_eq_some hbuild
  have way : g.Way ids .primary request (g.reached? ids .primary request)
      fun live => g.service live ids .primary request := way_service .primary
  constructor
  · intro hbody hsecs
    have hpos : 0 < g.requestMs := by
      rw [hms, TimeoutSettings.requestMs]
      omega
    exact admits_of_truthful htruthful hpos (hbody.trans_eq hlimit.symm)
  · intro handler call hreached
    obtain ⟨hcontent, hwhole⟩ := read_of_reached htruthful hreached
    rw [hlimit] at hcontent hwhole
    have hcalls : reply.calls = (g.reached? ids .primary request).toList.map (·.2) :=
      way.calls live
    rw [hreached] at hcalls
    refine ⟨hcalls, hcontent, hwhole, fun hintime => ?_⟩
    have hstatus : reply.response.status = (handler live call).response.status :=
      (way.in_time live hreached (hintime.trans_eq hms.symm)).2
    refine ⟨hstatus, fun hreads hlong => ?_⟩
    rw [if_neg (Nat.not_le.2 hlong)] at hwhole
    rw [hstatus, hreads live call hwhole]
    rfl

/-- Uploads that are let through get to the handler that needs them as a whole. -/
theorem reached_echoing {limit : Nat} (ids : FreshIds)
    (hbuild : build? { limits := { maxBodyBytes := limit } } echoing {} = some g)
    (hadmits : g.Admits request) (hmethod : request.method = "POST")
    (hpath : request.uri.path = "/up".toList) :
    ∃ call, g.reached? ids .primary request = some (Rehearsal.echo, call) := by
  have hchoose : g.front.choose request.method request.uri.path =
      (some "/up".toList, .endpoint (.handler Rehearsal.echo)) := by
    have hplain : IsPlain "/grpc".toList := by decide
    have houtside : pathBelow? (GatewaySettings.trimmedPrefix {}) "/up".toList = none := by
      decide +kernel
    rw [hmethod, hpath, choose_front_of_pathBelow?_eq_none hbuild hplain houtside]
    rfl
  exact reached_of_choose_handler hchoose hadmits

/-- An upload of five octets, which is within both limits, is handed over as a whole. -/
theorem whole_limit_upload :
    ∃ g, build? { limits := { maxBodyBytes := 4194304 } } echoing {} = some g ∧
      (upload "5").Truthful ∧
      ∃ call, g.reached? ⟨[], []⟩ .primary (upload "5") = some (Rehearsal.echo, call) ∧
        call.whole = some (bytesOf "hello") ∧
        (g.primary {} ⟨[], []⟩ (upload "5")).response.status = 200 := by
  obtain ⟨g, hg⟩ := Option.isSome_iff_exists.1
    (show (build? { limits := { maxBodyBytes := 4194304 } } echoing {}).isSome from rfl)
  have hannounced : (upload "5").headers.announcedLength? = some 5 := by decide +kernel
  have htruthful : (upload "5").Truthful :=
    ⟨fun n hn => (Option.some.inj (hannounced.symm.trans hn)).symm, rfl⟩
  obtain ⟨hadmits, hread⟩ := whole_limit hg {} ⟨[], []⟩ htruthful
  obtain ⟨call, hreached⟩ := reached_echoing ⟨[], []⟩ hg
    (hadmits (by decide) (by decide)) rfl rfl
  obtain ⟨-, -, hwhole, hstatus⟩ := hread _ _ hreached
  rw [if_pos (by decide)] at hwhole
  refine ⟨g, hg, htruthful, call, hreached, hwhole, ?_⟩
  rw [(hstatus ?_).1]
  · simp only [Rehearsal.echo, hwhole]
    rfl
  · rw [Rehearsal.delay_echo]
    decide

/-- An upload of some length, which announces none. -/
def longUpload (length : Nat) : Request :=
  { method := "POST", uri := ⟨none, none, ⟨"/up".toList, none⟩⟩
    body := { bytes := .replicate length 97 } }

theorem truthful_longUpload (length : Nat) : (longUpload length).Truthful :=
  ⟨fun n hn => absurd hn (Option.some_ne_none n).symm, rfl⟩

/-- What lies between the two limits is let through, and then refused as too long. -/
theorem status_longUpload {limit length : Nat}
    (hbuild : build? { limits := { maxBodyBytes := limit } } echoing {} = some g)
    (hwithin : length ≤ limit) (hlong : Body.wholeLimit < length) (live : Live) (ids : FreshIds) :
    g.Admits (longUpload length) ∧
      (g.primary live ids (longUpload length)).response.status = 413 := by
  obtain ⟨-, -, -, -, -, hms, hlimit⟩ := build?_eq_some hbuild
  have htruthful := truthful_longUpload length
  have hlength : (longUpload length).body.bytes.length = length := List.length_replicate
  have hms : g.requestMs = 30 * 1000 := hms
  have hpos : 0 < g.requestMs := by omega
  have hadmits : g.Admits (longUpload length) := by
    refine admits_of_truthful htruthful hpos ?_
    rw [hlength, hlimit]
    exact hwithin
  obtain ⟨call, hreached⟩ := reached_echoing ids hbuild hadmits rfl rfl
  have hwhole : call.whole = none := by
    rw [(read_of_reached htruthful hreached).2, hlength, if_neg]
    exact fun h => Nat.not_lt.2 (h.trans (Nat.min_le_right _ _)) hlong
  have hintime : (Rehearsal.echo live call).delay < g.requestMs := by
    rw [Rehearsal.delay_echo]
    exact hpos
  have hstatus := ((way_service .primary).in_time live hreached hintime).2
  rw [Rehearsal.readsWhole_echo live call hwhole] at hstatus
  exact ⟨hadmits, hstatus⟩

/-- **A body within the limit of the settings that is refused as too long**: one of an octet more
than two mebibytes, with a limit of four. -/
theorem whole_limit_above :
    ∃ g, build? { limits := { maxBodyBytes := 4194304 } } echoing {} = some g ∧
      (longUpload 2097153).Truthful ∧
      (longUpload 2097153).body.bytes.length ≤ 4194304 ∧
      (g.primary {} ⟨[], []⟩ (longUpload 2097153)).response.status = 413 := by
  obtain ⟨g, hg⟩ := Option.isSome_iff_exists.1
    (show (build? { limits := { maxBodyBytes := 4194304 } } echoing {}).isSome from rfl)
  have hlength : (longUpload 2097153).body.bytes.length = 2097153 := List.length_replicate
  refine ⟨g, hg, truthful_longUpload _, ?_, ?_⟩
  · rw [hlength]
    decide
  · exact (status_longUpload hg (by decide) (by decide) {} ⟨[], []⟩).2

end Stacks

end ProtocolGateway

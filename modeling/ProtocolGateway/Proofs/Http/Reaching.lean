import ProtocolGateway.Proofs.Http.Admission
import ProtocolGateway.Startup.Launch

/-!
# Which handler a request gets to

A request that comes in at one of the two stacks gets to one handler at most: to the one that the
table of the stack chooses, or, if the primary table forwards the request, to the one that the
secondary table chooses for what is left of it. The layers of the primary stack may keep it from
getting there, and without any time it gets nowhere.

What a stack does with the reply of whatever is behind its layers is the same for both, so it is
named once, as a shell. The ways that a request can take are then three: it gets nowhere, it gets to
a handler, or it is forwarded and takes one of the first two ways through the other stack. What
holds of all replies is shown by an induction on that.

## Main definitions

* `Stacks.sent?`, `Stacks.reached?`: the request that is handed over, and the handler that is
  reached, with what it gets.
* `Stacks.shell`: what is put around a reply.
* `Stacks.Way`: the ways that a request can take.

## Main results

* `Stacks.secondary_eq_shell`, `Stacks.primary_eq_shell`: both stacks are a shell.
* `Stacks.way_service`: a request takes one of the ways.
-/

namespace ProtocolGateway

/-- The reply of a handler that has answered a call. -/
def Answer.reply (call : Call) (answer : Answer) : Reply :=
  { delay := answer.delay, response := answer.response, events := [(0, .handled call)] }

/-- The identity that the stack at an entrance would give a request without one. -/
def FreshIds.given (ids : FreshIds) : Gateway.Entrance → Bytes
  | .primary => ids.primary
  | .secondary => ids.secondary

namespace Stacks

/-- The service at an entrance. -/
def service (g : Stacks) (live : Live) (ids : FreshIds) : Gateway.Entrance → Service
  | .primary => g.primary live ids
  | .secondary => g.secondary live ids

instance (g : Stacks) (request : Request) : Decidable (g.Admits request) :=
  decidable_of_iff
    (0 < g.requestMs ∧ ∀ n ∈ request.headers.announcedLength?, n ≤ g.maxBodyBytes)
    ⟨fun h => ⟨h.1, h.2⟩, fun h => ⟨h.time, h.length⟩⟩

/-! ### The way to a handler -/

/-- What the secondary stack is handed of a request, if that comes in at the primary one, is let
through and is forwarded. -/
def sent? (g : Stacks) (fresh : Bytes) : Gateway.Entrance → Request → Option Request
  | .secondary, _ => none
  | .primary, request =>
    match (g.front.choose request.method request.uri.path).2 with
    | .endpoint .forward =>
      if g.Admits request then
        (request.uri.below? g.reserved).map fun uri =>
          (g.handed uri fresh request).capped (request.bodyCap g.maxBodyBytes)
      else none
    | _ => none

/-- The handler of the secondary table that a request gets to, with what it gets. -/
def backReached? (g : Stacks) (fresh : Bytes) (request : Request) : Option (Handler × Call) :=
  match g.back.choose request.method request.uri.path with
  | (route, .endpoint h) =>
    if 0 < g.requestMs then some (h, ((request.enter route).identified fresh).toCall) else none
  | _ => none

/-- The handler of the primary table that a request gets to, with what it gets. -/
def frontReached? (g : Stacks) (fresh : Bytes) (request : Request) : Option (Handler × Call) :=
  match g.front.choose request.method request.uri.path with
  | (route, .endpoint (.handler h)) =>
    if g.Admits request then
      some (h, ((request.enter route).admitted fresh g.maxBodyBytes).toCall)
    else none
  | _ => none

/-- The handler that a request gets to, with what it gets. -/
def reached? (g : Stacks) (ids : FreshIds) :
    Gateway.Entrance → Request → Option (Handler × Call)
  | .secondary, request => g.backReached? ids.secondary request
  | .primary, request =>
    match g.sent? ids.primary .primary request with
    | some sent => g.backReached? ids.secondary sent
    | none => g.frontReached? ids.primary request

/-! ### What is put around a reply -/

/-- What both stacks put around the reply of whatever is behind their layers. -/
def shell (g : Stacks) (fresh : Bytes) (route : Option (List Char)) (allow : Option String)
    (request : Request) (behind : Reply) : Reply :=
  let reply := Layer.around fresh g.requestMs (fun _ => behind) (request.enter route)
  { reply with response := reply.response.fitMethod request.method allow }

variable {g : Stacks} {live : Live} {ids : FreshIds} {request sent : Request} {fresh : Bytes}
variable {route : Option (List Char)} {allow : Option String} {behind : Reply}

/-- Without any time it does not matter what is behind the layers. -/
theorem shell_of_no_time (h : ¬0 < g.requestMs) (other : Reply) :
    g.shell fresh route allow request behind = g.shell fresh route allow request other := by
  have htimed (reply : Reply) (r : Request) :
      Layer.timed g.requestMs (fun _ => reply) r = { response := .empty 408 } := by
    simp [Layer.timed, Nat.eq_zero_of_not_pos h]
  have hsame : Layer.timed g.requestMs (fun _ => behind) = Layer.timed g.requestMs fun _ => other :=
    funext fun r => (htimed behind r).trans (htimed other r).symm
  rw [shell, shell, Layer.around, Layer.around, hsame]

/-- **The secondary stack** is a shell around the answer of what its table chooses. -/
theorem secondary_eq_shell {choice : Table.Choice Handler}
    (h : g.back.choose request.method request.uri.path = (route, choice)) :
    g.secondary live ids request =
      g.shell ids.secondary route choice.allow? request
        (choice.answer live ((request.enter route).identified ids.secondary)) := by
  rw [secondary, Table.serve, h]
  rfl

/-- **The primary stack** is a shell around the answer of what its table chooses, if the request is
let through. -/
theorem primary_eq_shell {choice : Table.Choice Endpoint}
    (h : g.front.choose request.method request.uri.path = (route, choice)) :
    g.primary live ids request =
      g.shell ids.primary route choice.allow? request
        (if g.Admits request then
          Layer.counted (choice.service (g.endpointService live ids))
            ((request.enter route).admitted ids.primary g.maxBodyBytes)
        else refusal) := by
  split
  · next hadmits =>
    have hserve : g.primary live ids =
        g.front.serve (g.frontLayers ids.primary) (g.endpointService live ids) :=
      congrArg (g.front.serve _) (funext fun endpoint => by cases endpoint <;> rfl)
    have hprimary : g.primary live ids request =
        g.shell ids.primary route choice.allow? request
          (Layer.sized g.maxBodyBytes (Layer.counted (choice.service (g.endpointService live ids)))
            ((request.enter route).identified ids.primary)) := by
      rw [hserve, Table.serve, h]
      rfl
    rw [hprimary, sized_eq (admits_enter.2 hadmits)]
  · next hrefused => exact primaryWith_of_not_admits h hrefused _

/-- What is behind the layers of the primary stack if it forwards a request. -/
theorem forward_admitted {choice : Table.Choice Endpoint}
    (h : g.front.choose request.method request.uri.path = (route, choice)) :
    g.endpointService live ids .forward ((request.enter route).admitted fresh g.maxBodyBytes) =
      match request.uri.below? g.reserved with
      | none => { response := .empty 404 }
      | some uri => g.secondary live ids
          ((g.handed uri fresh request).capped (request.bodyCap g.maxBodyBytes)) := by
  simp only [handed, h]
  rfl

/-- What is handed over has the method of the request, and its headers with an identity. -/
theorem method_headers_sent {entrance : Gateway.Entrance}
    (h : g.sent? fresh entrance request = some sent) :
    sent.method = request.method ∧
      sent.headers = request.headers.addMissing requestIdHeader fresh := by
  cases entrance with
  | secondary => cases h
  | primary =>
    rw [sent?] at h
    split at h
    · split at h
      · obtain ⟨uri, -, rfl⟩ := Option.map_eq_some_iff.1 h
        exact ⟨rfl, rfl⟩
      · cases h
    · cases h

theorem headers_sent {entrance : Gateway.Entrance}
    (h : g.sent? fresh entrance request = some sent) :
    sent.headers = request.headers.addMissing requestIdHeader fresh := (method_headers_sent h).2

theorem sent?_of_not_admits (h : ¬g.Admits request) : g.sent? fresh .primary request = none := by
  rw [sent?]
  split
  · exact if_neg h
  · rfl

theorem sent?_of_ne_forward
    (h : (g.front.choose request.method request.uri.path).2 ≠ .endpoint .forward) :
    g.sent? fresh .primary request = none := by
  rw [sent?]
  split
  · next hforward => exact absurd hforward h
  · rfl

theorem sent?_of_forward
    (h : (g.front.choose request.method request.uri.path).2 = .endpoint .forward)
    (hadmits : g.Admits request) :
    g.sent? fresh .primary request = (request.uri.below? g.reserved).map fun uri =>
      (g.handed uri fresh request).capped (request.bodyCap g.maxBodyBytes) := by
  simp only [sent?, h]
  exact if_pos hadmits

theorem frontReached?_of_not_admits (h : ¬g.Admits request) :
    g.frontReached? fresh request = none := by
  rw [frontReached?]
  split
  · exact if_neg h
  · rfl

end Stacks

/-! ### The ways of a request -/

/-- Nothing is to be seen of the reply but that it is counted, if at all, and no identity either. -/
structure Reply.Blank (reply : Reply) : Prop where
  counts : ∀ e ∈ reply.events, ∃ method route status, e.2 = .counted method route status
  unidentified : reply.response.headers.has requestIdHeader = false

namespace Reply.Blank

theorem status (status : Nat) : ({ response := .empty status } : Reply).Blank :=
  ⟨fun _ he => absurd he List.not_mem_nil, rfl⟩

theorem refusal : Stacks.refusal.Blank :=
  ⟨fun _ he => absurd he List.not_mem_nil, by decide⟩

theorem counted {reply : Reply} (h : reply.Blank) (r : Request) :
    (Layer.counted (fun _ => reply) r).Blank := by
  refine ⟨fun e he => ?_, h.unidentified⟩
  rcases List.mem_append.1 he with he | he
  · exact h.counts e he
  · rw [List.mem_singleton.1 he]
    exact ⟨_, _, _, rfl⟩

end Reply.Blank

namespace Stacks

/-- What the stack at an entrance does with the reply of a handler: the primary one counts it. -/
def counting (r : Request) (reply : Reply) : Gateway.Entrance → Reply
  | .primary => Layer.counted (fun _ => reply) r
  | .secondary => reply

section counting

variable {r : Request} {reply : Reply} {entrance : Gateway.Entrance}

theorem delay_counting : (counting r reply entrance).delay = reply.delay := by
  cases entrance <;> rfl

theorem response_counting : (counting r reply entrance).response = reply.response := by
  cases entrance <;> rfl

end counting

/-- The ways that a request can take from an entrance, with the handler that it gets to and the
reply, which depends on what handlers are told of the process. -/
inductive Way (g : Stacks) (ids : FreshIds) :
    Gateway.Entrance → Request → Option (Handler × Call) → (Live → Reply) → Prop where
  /-- It gets nowhere. -/
  | nowhere (entrance : Gateway.Entrance) (request : Request) (route : Option (List Char))
    (allow : Option String) (behind : Reply)
    (hsent : g.sent? (ids.given entrance) entrance request = none) (hblank : behind.Blank) :
    Way g ids entrance request none fun _ =>
      g.shell (ids.given entrance) route allow request behind
  /-- It gets to a handler. -/
  | handled (entrance : Gateway.Entrance) (request : Request) (route : Option (List Char))
    (r : Request) (h : Handler) (call : Call)
    (hsent : g.sent? (ids.given entrance) entrance request = none) (htime : 0 < g.requestMs)
    (hheaders : call.headers = request.headers.addMissing requestIdHeader (ids.given entrance)) :
    Way g ids entrance request (some (h, call)) fun live =>
      g.shell (ids.given entrance) route none request
        (counting r ((h live call).reply call) entrance)
  /-- It is forwarded, and takes one of the other ways through the secondary stack. -/
  | forwarded (request sent : Request) (route : Option (List Char)) (r : Request)
    (reached : Option (Handler × Call)) (answer : Live → Reply)
    (hsent : g.sent? ids.primary .primary request = some sent) (htime : 0 < g.requestMs)
    (hway : Way g ids .secondary sent reached answer) :
    Way g ids .primary request reached fun live =>
      g.shell ids.primary route none request (counting r (answer live) .primary)

variable {g : Stacks} {ids : FreshIds} {request : Request}

theorem way_secondary :
    g.Way ids .secondary request (g.backReached? ids.secondary request)
      fun live => g.secondary live ids request := by
  rcases hchoose : g.back.choose request.method request.uri.path with ⟨route, choice⟩
  simp only [secondary_eq_shell hchoose, backReached?, hchoose]
  cases choice with
  | endpoint h =>
    by_cases htime : 0 < g.requestMs
    · simp only [if_pos htime]
      refine .handled .secondary request route request h _ rfl htime ?_
      cases route <;> rfl
    · simp only [if_neg htime, shell_of_no_time htime refusal]
      exact .nowhere .secondary request route none _ rfl .refusal
  | wrongMethod methods => exact .nowhere .secondary request route methods _ rfl (.status 405)
  | notFound => exact .nowhere .secondary request route none _ rfl (.status 404)

theorem way_primary_of_not_admits (h : ¬g.Admits request) :
    g.Way ids .primary request none fun live => g.primary live ids request := by
  rcases hchoose : g.front.choose request.method request.uri.path with ⟨route, choice⟩
  simp only [primary_eq_shell hchoose, if_neg h]
  exact .nowhere .primary request route choice.allow? refusal (sent?_of_not_admits h) .refusal

theorem way_primary_of_admits (h : g.Admits request) :
    g.Way ids .primary request (g.reached? ids .primary request)
      fun live => g.primary live ids request := by
  rcases hchoose : g.front.choose request.method request.uri.path with ⟨route, choice⟩
  have hreply (live : Live) : g.primary live ids request =
      g.shell ids.primary route choice.allow? request
        (counting ((request.enter route).admitted ids.primary g.maxBodyBytes)
          (choice.service (g.endpointService live ids)
            ((request.enter route).admitted ids.primary g.maxBodyBytes)) .primary) := by
    rw [primary_eq_shell hchoose, if_pos h]
    rfl
  have hblank (status : Nat) (r : Request) :
      (counting r { response := .empty status } .primary).Blank :=
    (Reply.Blank.status status).counted r
  have hnothing (hne : choice ≠ .endpoint .forward) : g.sent? ids.primary .primary request = none :=
    sent?_of_ne_forward (by rw [hchoose]; exact hne)
  simp only [hreply, reached?]
  cases choice with
  | wrongMethod methods =>
    have hsent := hnothing (by simp)
    simp only [hsent, frontReached?, hchoose]
    exact .nowhere .primary request route methods _ hsent (hblank 405 _)
  | notFound =>
    have hsent := hnothing (by simp)
    simp only [hsent, frontReached?, hchoose]
    exact .nowhere .primary request route none _ hsent (hblank 404 _)
  | endpoint endpoint =>
    cases endpoint with
    | handler handler =>
      have hsent := hnothing (by simp)
      simp only [hsent, frontReached?, hchoose, if_pos h]
      refine .handled .primary request route _ handler _ hsent h.time ?_
      cases route <;> rfl
    | forward =>
      have hsent : g.sent? ids.primary .primary request = _ :=
        sent?_of_forward (congrArg Prod.snd hchoose) h
      simp only [Table.Choice.service, forward_admitted hchoose]
      cases huri : request.uri.below? g.reserved with
      | none =>
        rw [huri, Option.map_none] at hsent
        simp only [hsent, frontReached?, hchoose]
        exact .nowhere .primary request route none _ hsent (hblank 404 _)
      | some uri =>
        rw [huri, Option.map_some] at hsent
        simp only [hsent]
        exact .forwarded request _ route _ _ _ hsent h.time way_secondary

/-- **A request takes one of the ways.** -/
theorem way_service (entrance : Gateway.Entrance) :
    g.Way ids entrance request (g.reached? ids entrance request)
      fun live => g.service live ids entrance request := by
  cases entrance with
  | secondary => exact way_secondary
  | primary =>
    by_cases h : g.Admits request
    · exact way_primary_of_admits h
    · rw [reached?, sent?_of_not_admits h]
      simp only [frontReached?_of_not_admits h]
      exact way_primary_of_not_admits h

end Stacks

end ProtocolGateway

import Mathlib.Data.List.Forall2
import ProtocolGateway.Proofs.Http.Identity

/-!
# Replies that agree

Whatever way a request takes, its reply depends on the process only by the answer of the handler
that it gets to. So two replies agree as far as the two answers do, and if nobody but the handler
has a say in it, the reply has the status and the body of the answer.

## Main definitions

* `Response.AgreeBut`, `Reply.AgreeBut`: responses and replies agree but for a body.

## Main results

* `Stacks.Way.agrees`: replies agree as far as the answers of the handler do.
* `Stacks.Way.response`: the answer to a GET, if it is in time, is seen as it is.
-/

namespace ProtocolGateway

/-- The header with the length of a body. -/
def Headers.lengthOf (body : Bytes) : String × Bytes :=
  ("content-length", bytesOf (Decimal.render body.length))

/-- Headers agree one by one, but for the lengths of two bodies. -/
def Headers.AgreeBut (x y : Bytes) : Headers → Headers → Prop :=
  List.Forall₂ fun entry entry' =>
    entry = entry' ∨ entry = Headers.lengthOf x ∧ entry' = Headers.lengthOf y

/-- Two responses agree but for their bodies, and these agree as well unless they are the given
ones; the headers may show the lengths of these. -/
structure Response.AgreeBut (x y : Bytes) (r r' : Response) : Prop where
  status : r.status = r'.status
  headers : r.headers.AgreeBut x y r'.headers
  body : r.body = r'.body ∨ r.body = x ∧ r'.body = y
  length : r.length = r'.length

/-- Two replies agree but for the bodies of their responses, and these agree as well unless they are
the given ones. -/
structure Reply.AgreeBut (x y : Bytes) (a b : Reply) : Prop where
  delay : a.delay = b.delay
  events : a.events = b.events
  response : a.response.AgreeBut x y b.response

section agree

variable {x y : Bytes}

namespace Headers.AgreeBut

variable {headers headers' : Headers} {name : String}

theorem refl (headers : Headers) : headers.AgreeBut x y headers :=
  List.forall₂_same.2 fun _ _ => .inl rfl

/-- With equal bodies all headers are equal. -/
theorem eq (h : headers.AgreeBut x x headers') : headers = headers' := by
  refine List.forall₂_eq_eq_eq.le _ _ (h.imp fun entry entry' hentry => ?_)
  rcases hentry with hsame | ⟨hx, hx'⟩
  · exact hsame
  · exact hx.trans hx'.symm

theorem has (h : headers.AgreeBut x y headers') : headers.has name = headers'.has name := by
  induction h with
  | nil => rfl
  | @cons entry entry' rest rest' hentry _ ih =>
    have hname : entry.1 = entry'.1 := by
      rcases hentry with rfl | ⟨rfl, rfl⟩ <;> rfl
    rw [Headers.has, Headers.has] at ih ⊢
    rw [first?, first?, hname]
    split
    · rfl
    · exact ih

theorem addMissing {value value' : Bytes} (h : headers.AgreeBut x y headers')
    (hvalue : value = value' ∨ (name, value) = lengthOf x ∧ (name, value') = lengthOf y) :
    (headers.addMissing name value).AgreeBut x y (headers'.addMissing name value') := by
  rw [Headers.addMissing, Headers.addMissing, h.has]
  split
  · exact h
  · exact List.rel_append h (.cons (hvalue.imp_left fun hsame => by rw [hsame]) .nil)

end Headers.AgreeBut

namespace Response.AgreeBut

variable {r r' : Response}

theorem refl (r : Response) : r.AgreeBut x y r := ⟨rfl, .refl _, .inl rfl, rfl⟩

theorem identified (h : r.AgreeBut x y r') (id : Bytes) :
    (r.identified id).AgreeBut x y (r'.identified id) where
  status := h.status
  headers := h.headers.addMissing (.inl rfl)
  body := h.body
  length := h.length

theorem withoutBody (h : r.AgreeBut x y r') : r.withoutBody.AgreeBut x y r'.withoutBody :=
  ⟨h.status, h.headers, .inl rfl, rfl⟩

theorem fittedHeaders (h : r.AgreeBut x y r') (allow : Option String) :
    (r.fittedHeaders allow).AgreeBut x y (r'.fittedHeaders allow) := by
  have hallowed : (r.headers.addMissing? "allow" (allow.map bytesOf)).AgreeBut x y
      (r'.headers.addMissing? "allow" (allow.map bytesOf)) := by
    cases allow with
    | none => exact h.headers
    | some methods => exact h.headers.addMissing (.inl rfl)
  rw [Response.fittedHeaders, Response.fittedHeaders, exactLength?, exactLength?, h.length]
  cases r'.length with
  | atLeast => exact hallowed
  | exact =>
    refine hallowed.addMissing ?_
    rcases h.body with hbody | ⟨hx, hy⟩
    · exact .inl (by rw [hbody])
    · exact .inr ⟨by rw [hx]; rfl, by rw [hy]; rfl⟩

theorem announcesBody (h : r.AgreeBut x y r') (hempty : x = [] ↔ y = []) :
    r.announcesBody = r'.announcesBody := by
  rw [Response.announcesBody, Response.announcesBody, h.headers.has, h.headers.has, leastLength,
    leastLength, h.length]
  cases r'.length with
  | atLeast => rfl
  | exact =>
    have hnil : r.body = [] ↔ r'.body = [] := by
      rcases h.body with hbody | ⟨hx, hy⟩
      · rw [hbody]
      · rw [hx, hy, hempty]
    have hzero : (r.body.length != 0) = (r'.body.length != 0) := by
      rw [Bool.eq_iff_iff, bne_iff_ne, bne_iff_ne, ne_eq, ne_eq, List.length_eq_zero_iff,
        List.length_eq_zero_iff, hnil]
    exact congrArg (_ || ·) hzero

theorem fitMethod (h : r.AgreeBut x y r') (hempty : x = [] ↔ y = []) (method : String)
    (allow : Option String) :
    (r.fitMethod method allow).AgreeBut x y (r'.fitMethod method allow) := by
  have htunnel : r'.opensTunnel method = r.opensTunnel method := by
    rw [opensTunnel, opensTunnel, h.status]
  by_cases hopens : r.opensTunnel method = true
  · rw [fitMethod_of_opensTunnel hopens, fitMethod_of_opensTunnel (htunnel.trans hopens),
      h.announcesBody hempty]
    split
    · exact h.withoutBody
    · exact h
  · have hfitted : Response.AgreeBut x y { r with headers := r.fittedHeaders allow }
        { r' with headers := r'.fittedHeaders allow } :=
      ⟨h.status, h.fittedHeaders allow, h.body, h.length⟩
    rw [fitMethod_of_not_opensTunnel hopens, fitMethod_of_not_opensTunnel (htunnel ▸ hopens)]
    split
    · exact hfitted.withoutBody
    · exact hfitted

end Response.AgreeBut

namespace Reply.AgreeBut

variable {a b : Reply}

theorem refl (a : Reply) : a.AgreeBut x y a := ⟨rfl, rfl, .refl _⟩

/-- With equal bodies all is equal. -/
theorem eq (h : a.AgreeBut x x b) : a = b := by
  obtain ⟨hdelay, hevents, hstatus, hagree, hbody, hlength⟩ := h
  have hheaders := hagree.eq
  have hsame : a.response.body = b.response.body := by
    rcases hbody with hbody | ⟨ha, hb⟩
    · exact hbody
    · exact ha.trans hb.symm
  clear hagree
  obtain ⟨delay, ⟨status, headers, body, length⟩, events⟩ := a
  simp only at hdelay hevents hstatus hheaders hsame hlength
  subst hdelay hevents hstatus hheaders hsame hlength
  rfl

theorem timed (h : a.AgreeBut x y b) (limit : Nat) (r : Request) :
    (Layer.timed limit (fun _ => a) r).AgreeBut x y (Layer.timed limit (fun _ => b) r) := by
  simp only [Layer.timed, h.delay, h.events]
  split
  · exact h
  · exact refl _

theorem returningId {inner inner' : Service} {r : Request} (h : (inner r).AgreeBut x y (inner' r)) :
    (Layer.returningId inner r).AgreeBut x y (Layer.returningId inner' r) := by
  rw [Layer.returningId, Layer.returningId]
  cases r.headers.first? requestIdHeader with
  | none => exact h
  | some id => exact ⟨h.delay, h.events, h.response.identified id⟩

theorem counting (h : a.AgreeBut x y b) (r : Request) (entrance : Gateway.Entrance) :
    (Stacks.counting r a entrance).AgreeBut x y (Stacks.counting r b entrance) := by
  cases entrance with
  | secondary => exact h
  | primary =>
    refine ⟨h.delay, ?_, h.response⟩
    simp only [Stacks.counting, Layer.counted, h.delay, h.events, h.response.status]

/-- What is put around replies that agree leaves them so. -/
theorem shell (h : a.AgreeBut x y b) (hempty : x = [] ↔ y = []) (g : Stacks) (fresh : Bytes)
    (route : Option (List Char)) (allow : Option String) (request : Request) :
    (g.shell fresh route allow request a).AgreeBut x y (g.shell fresh route allow request b) := by
  have hreturned : (Layer.returningId (Layer.timed g.requestMs fun _ => a)
        ((request.enter route).identified fresh)).AgreeBut x y
      (Layer.returningId (Layer.timed g.requestMs fun _ => b)
        ((request.enter route).identified fresh)) := (h.timed g.requestMs _).returningId
  refine ⟨hreturned.delay, ?_, hreturned.response.fitMethod hempty _ _⟩
  exact congrArg (List.cons (0, ((request.enter route).identified fresh).span)) hreturned.events

end Reply.AgreeBut

/-- **Replies agree as far as the answers of the handler do**, whatever way a request takes. -/
theorem Stacks.Way.agrees {g : Stacks} {ids : FreshIds} {entrance : Gateway.Entrance}
    {request : Request} {reached : Option (Handler × Call)} {answer : Live → Reply}
    (way : g.Way ids entrance request reached answer) {live live' : Live}
    (hempty : x = [] ↔ y = []) (h : ∀ handler call, reached = some (handler, call) →
      ((handler live call).reply call).AgreeBut x y ((handler live' call).reply call)) :
    (answer live).AgreeBut x y (answer live') := by
  induction way with
  | nowhere => exact .refl _
  | handled _ _ _ r handler call =>
    exact ((h handler call rfl).counting r _).shell hempty _ _ _ _ _
  | forwarded _ _ _ r _ _ _ _ _ ih => exact ((ih h).counting r _).shell hempty _ _ _ _ _

end agree

/-! ### What is seen of an answer -/

namespace Stacks

variable {g : Stacks} {ids : FreshIds} {request : Request} {fresh : Bytes}
variable {route : Option (List Char)} {allow : Option String} {behind : Reply}

/-- A stack leaves the body of what it answers to a GET alone. -/
theorem body_shell_get (hget : request.method = Verb.get.name) :
    (g.shell fresh route allow request behind).response.body =
      (behind.within g.requestMs).body := by
  rw [response_shell, hget, Response.body_fitMethod_get]
  rfl

/-- A request gets to a handler only if there is any time for it. -/
theorem Way.requestMs_pos {entrance : Gateway.Entrance} {found : Handler × Call}
    {answer : Live → Reply} (way : g.Way ids entrance request (some found) answer) :
    0 < g.requestMs := by
  cases way with
  | handled _ _ _ _ _ _ _ htime => exact htime
  | forwarded _ _ _ _ _ _ _ htime => exact htime

/-- **An answer in time to a GET is seen as it is**, whatever way the request takes. -/
theorem Way.response {entrance : Gateway.Entrance} {reached : Option (Handler × Call)}
    {answer : Live → Reply} (way : g.Way ids entrance request reached answer) {handler : Handler}
    {call : Call} (hreached : reached = some (handler, call)) {live : Live}
    (hget : request.method = Verb.get.name) (htime : (handler live call).delay < g.requestMs) :
    (answer live).delay < g.requestMs ∧
      (answer live).response.status = (handler live call).response.status ∧
      (answer live).response.body = (handler live call).response.body := by
  obtain ⟨hdelay, hstatus⟩ := way.in_time live hreached htime
  refine ⟨hdelay, hstatus, ?_⟩
  clear hdelay hstatus
  induction way with
  | nowhere => cases hreached
  | handled entrance request route r h called =>
    obtain ⟨rfl, rfl⟩ := Prod.mk.inj (Option.some.inj hreached)
    rw [body_shell_get hget, Reply.within, delay_counting, response_counting]
    exact congrArg Response.body (if_pos htime)
  | forwarded request sent route r reached answer hsent _ hway ih =>
    have hdelay : (answer live).delay < g.requestMs := (hway.in_time live hreached htime).1
    rw [body_shell_get hget, Reply.within, delay_counting, response_counting, if_pos hdelay]
    exact ih hreached ((method_headers_sent hsent).1.trans hget)

end Stacks

end ProtocolGateway

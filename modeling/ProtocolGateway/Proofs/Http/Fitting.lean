import Mathlib.Order.Nat
import ProtocolGateway.Http.Service

/-!
# Fitting messages again

A request that is forwarded goes through two stacks, and much is done to it and to its response
twice. Doing it again changes nothing where it is done only if something is missing, or where it
leaves alone what keeps within a limit. There is one exception: to a HEAD request a body of unknown
length is not announced, and when the response is fitted to the method once more, the body has been
taken away, so that its length is known, and is zero.

## Main definitions

* `Response.showingLength`: what fitting a response once more makes of it.

## Main results

* `Body.read?_limit_of_le`: a cap that a body keeps within is not noticed.
* `Response.fitMethod_fitMethod`: what fitting a response once more makes of it.
-/

namespace ProtocolGateway

/-! ### Headers -/

namespace Headers

variable {name other : String} {value v : Bytes} {headers : Headers}

theorem addMissing_of_first? (h : headers.first? name = some v) :
    headers.addMissing name value = headers := by
  rw [addMissing, has, h]
  rfl

theorem first?_append_of_ne (hne : other ≠ name) :
    first? name (headers ++ [(other, value)]) = first? name headers := by
  induction headers with
  | nil => exact if_neg hne
  | cons entry rest ih => rw [List.cons_append, first?, first?, ih]

theorem first?_addMissing_of_ne (hne : other ≠ name) :
    (headers.addMissing other value).first? name = headers.first? name := by
  rw [addMissing]
  split
  · rfl
  · exact first?_append_of_ne hne

theorem first?_addMissing?_of_ne {value? : Option Bytes} (hne : other ≠ name) :
    (headers.addMissing? other value?).first? name = headers.first? name := by
  cases value? with
  | none => rfl
  | some value => exact first?_addMissing_of_ne hne

/-- What is there or was added is not missing any more. -/
theorem addMissing?_of_first? (h : headers.first? name = some v) (value? : Option Bytes) :
    headers.addMissing? name value? = headers := by
  cases value? with
  | none => rfl
  | some value => rw [addMissing?, addMissing, has, h]; rfl

theorem announcedLength?_addMissing (hne : other ≠ "content-length") :
    (headers.addMissing other value).announcedLength? = headers.announcedLength? := by
  rw [announcedLength?, announcedLength?, first?_addMissing_of_ne hne]

end Headers

/-! ### Bodies that are short enough -/

section limit

variable {b : Body} {n : Nat}

theorem Body.read?_limit : (b.limit n).read? = if b.bytes.length ≤ n then b.read? else none := by
  obtain ⟨bytes, cap⟩ := b
  cases cap with
  | none => by_cases hn : bytes.length ≤ n <;> simp [limit, read?, hn]
  | some m =>
    simp only [limit, read?, Option.all_some, decide_eq_true_eq, Nat.le_min]
    by_cases hm : bytes.length ≤ m <;> by_cases hn : bytes.length ≤ n <;> simp [hm, hn]

/-- A cap that the body keeps within is not noticed. -/
theorem Body.read?_limit_of_le (h : b.bytes.length ≤ n) : (b.limit n).read? = b.read? := by
  rw [read?_limit, if_pos h]

theorem Body.whole?_limit_of_le (h : b.bytes.length ≤ n) : (b.limit n).whole? = b.whole? := by
  rw [whole?, read?_limit, read?_limit_of_le h, whole?, read?_limit]
  rfl

end limit

/-! ### Responses that are fitted to the method -/

namespace Response

variable {r : Response} {method name : String} {allow : Option String} {v : Bytes}

/-- Whether a response opens a tunnel. -/
def opensTunnel (method : String) (r : Response) : Bool :=
  method = Verb.connect.name && isSuccess r.status

/-- A response that had its body taken away shows length zero, unless it shows another one. -/
def showingLength (method : String) (r : Response) : Response :=
  if method = Verb.head.name then
    { r with headers := r.headers.addMissing "content-length" (bytesOf "0") }
  else r

theorem status_showingLength : (r.showingLength method).status = r.status := by
  rw [showingLength]
  split <;> rfl

theorem fitMethod_of_opensTunnel (h : r.opensTunnel method = true) :
    r.fitMethod method allow = if r.announcesBody then r.withoutBody else r :=
  if_pos h

theorem fitMethod_of_not_opensTunnel (h : ¬r.opensTunnel method = true) :
    r.fitMethod method allow =
      if method = Verb.head.name then { r with headers := r.fittedHeaders allow }.withoutBody
      else { r with headers := r.fittedHeaders allow } :=
  if_neg h

theorem status_fitMethod : (r.fitMethod method allow).status = r.status := by
  by_cases h : r.opensTunnel method = true
  · rw [fitMethod_of_opensTunnel h]
    split <;> rfl
  · rw [fitMethod_of_not_opensTunnel h]
    split <;> rfl

/-- What answers a GET request keeps its body. -/
theorem body_fitMethod_get : (r.fitMethod Verb.get.name allow).body = r.body := by
  have hget : ¬Verb.get.name = Verb.connect.name := by decide
  have hhead : ¬Verb.get.name = Verb.head.name := by decide
  have hopen : ¬r.opensTunnel Verb.get.name = true := by simp [opensTunnel, hget]
  rw [fitMethod_of_not_opensTunnel hopen, if_neg hhead]

/-- A header is not changed by fitting, unless it is one of those that are added. -/
theorem first?_fittedHeaders_of_ne (hallow : "allow" ≠ name) (hlength : "content-length" ≠ name) :
    (r.fittedHeaders allow).first? name = r.headers.first? name :=
  (Headers.first?_addMissing?_of_ne hlength).trans (Headers.first?_addMissing?_of_ne hallow)

theorem first?_fitMethod_of_ne (hallow : "allow" ≠ name) (hlength : "content-length" ≠ name) :
    (r.fitMethod method allow).headers.first? name = r.headers.first? name := by
  by_cases h : r.opensTunnel method = true
  · rw [fitMethod_of_opensTunnel h]
    split <;> rfl
  · rw [fitMethod_of_not_opensTunnel h]
    split <;> exact first?_fittedHeaders_of_ne hallow hlength

/-- Headers that have been fitted once fit. -/
theorem fittedHeaders_fittedHeaders :
    fittedHeaders none { r with headers := r.fittedHeaders allow } = r.fittedHeaders allow := by
  change (r.fittedHeaders allow).addMissing? "content-length" (r.exactLength?.map _) = _
  rw [fittedHeaders]
  cases r.exactLength? with
  | none => rfl
  | some n => exact Headers.addMissing?_of_first? Headers.first?_addMissing _

theorem fittedHeaders_withoutBody : r.withoutBody.fittedHeaders none =
    r.headers.addMissing "content-length" (bytesOf "0") := by
  change r.headers.addMissing "content-length" (bytesOf (Decimal.render 0)) = _
  rw [show Decimal.render 0 = "0" from rfl]

/-- **What fitting a response once more makes of it.** -/
theorem fitMethod_fitMethod :
    (r.fitMethod method allow).fitMethod method none =
      (r.fitMethod method allow).showingLength method := by
  have hsame : (r.fitMethod method allow).opensTunnel method = r.opensTunnel method := by
    rw [opensTunnel, opensTunnel, status_fitMethod]
  by_cases h : r.opensTunnel method = true
  · have hhead : ¬method = Verb.head.name := by
      rintro rfl
      simp [opensTunnel, Verb.name] at h
    rw [fitMethod_of_opensTunnel (hsame.trans h), fitMethod_of_opensTunnel h, showingLength,
      if_neg hhead]
    by_cases hbody : r.announcesBody = true
    · simp [hbody, withoutBody]
    · simp [hbody]
  · rw [fitMethod_of_not_opensTunnel (by rw [hsame]; exact h), fitMethod_of_not_opensTunnel h,
      showingLength]
    by_cases hhead : method = Verb.head.name
    · simp only [if_pos hhead]
      rw [fittedHeaders_withoutBody]
      rfl
    · simp only [if_neg hhead, fittedHeaders_fittedHeaders]

end Response

end ProtocolGateway

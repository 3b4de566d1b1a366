import ProtocolGateway.Proofs.Route.Members

/-!
# Endpoints that join a route

When two tables are put together, the endpoints that they have for a pattern join in one route. A
request is answered by the first kind of endpoint that there is: one for the method itself, then
that of GET if the method is HEAD, then the one for all other methods. Two tables that have the same
kind for a pattern do not go together, so of two endpoints for a request one is nearer, and the
nearer one answers, whichever was there first.

## Main definitions

* `Endpoints.join`: the endpoints of one pattern together with others.
* `Endpoints.distance`: from how far a method is answered.
* `Endpoints.Apart`: endpoints that can join.
* `Table.Distinct`: a table in which no pattern has two routes.
* `Table.endpointsAt`: the endpoints of a pattern in some routes.

## Main results

* `Endpoints.find?_join`: the nearer endpoint answers.
* `Table.joins_merge`: the endpoints of a pattern in two tables that were put together.
* `Table.choose_merge`: who answers a request that keeps its pattern.
-/

namespace ProtocolGateway

variable {α β : Type}

/-! ### The first place at which something is found -/

section first

variable {own other : β → Option α}

/-- Where at most one of two finds something at a place, that one comes first in both together which
finds something first. -/
theorem findSome?_or (h : ∀ place, own place = none ∨ other place = none) (places : List β) :
    (places.findSome? fun place => (own place).or (other place)) =
      if (places.findIdx fun place => (other place).isSome) <
          places.findIdx fun place => (own place).isSome then places.findSome? other
      else places.findSome? own := by
  induction places with
  | nil => rfl
  | cons place places ih =>
    cases hown : own place with
    | none =>
      cases hother : other place with
      | none => simpa [List.findIdx_cons, hown, hother] using ih
      | some y => simp [List.findIdx_cons, hown, hother]
    | some x =>
      have hother : other place = none := by simpa [hown] using h place
      simp [List.findIdx_cons, hown, hother]

/-- If both find something first at the same place, neither finds anything. -/
theorem findSome?_of_findIdx_eq (h : ∀ place, own place = none ∨ other place = none)
    {places : List β}
    (hsame : (places.findIdx fun place => (other place).isSome) =
      places.findIdx fun place => (own place).isSome) : places.findSome? own = none := by
  induction places with
  | nil => rfl
  | cons place places ih =>
    cases hown : own place with
    | none =>
      cases hother : other place with
      | none => simpa [hown] using ih (by simpa [List.findIdx_cons, hown, hother] using hsame)
      | some y => simp [List.findIdx_cons, hown, hother] at hsame
    | some x =>
      have hother : other place = none := by simpa [hown] using h place
      simp [List.findIdx_cons, hown, hother] at hsame

end first

/-! ### Endpoints -/

namespace Endpoints

variable {e other more : Endpoints α} {kind : Option Verb} {method : String} {path : List Char}

/-- The endpoint of a kind: of a verb, or of all other methods. -/
def ofKind? (e : Endpoints α) : Option Verb → Option α
  | some verb => e.verb? verb
  | none => e.any

/-- The kinds of endpoints that answer a method, the nearest first. -/
def kinds (method : String) : List (Option Verb) :=
  match Verb.ofMethod? method with
  | none => [none]
  | some .head => [some .head, some .get, none]
  | some verb => [some verb, none]

/-- From how far a method is answered: how many kinds come before the first one that there is. -/
def distance (method : String) (e : Endpoints α) : Nat :=
  (kinds method).findIdx fun kind => (e.ofKind? kind).isSome

theorem find?_eq_findSome? (method : String) (e : Endpoints α) :
    e.find? method = (kinds method).findSome? e.ofKind? := by
  have hcons (kind : Option Verb) (more : List (Option Verb)) :
      (kind :: more).findSome? e.ofKind? = (e.ofKind? kind).or (more.findSome? e.ofKind?) := by
    cases hkind : e.ofKind? kind <;> simp [hkind]
  have hone : [none].findSome? e.ofKind? = e.any := (hcons none []).trans Option.or_none
  rw [find?, kinds]
  cases Verb.ofMethod? method with
  | none => exact hone.symm
  | some verb =>
    cases verb
    case head =>
      rw [hcons, hcons, hone, ← Option.or_assoc]
      rfl
    all_goals rw [hcons, hone]; rfl

/-- The endpoints of one pattern together with others. -/
def join (e other : Endpoints α) : Endpoints α :=
  { verbs := e.verbs ++ other.verbs, any := e.any.or other.any }

theorem ofKind?_join (kind : Option Verb) :
    (e.join other).ofKind? kind = (e.ofKind? kind).or (other.ofKind? kind) := by
  cases kind with
  | none => rfl
  | some verb => exact List.lookup_append

theorem join_assoc : (e.join other).join more = e.join (other.join more) := by
  simp only [join, List.append_assoc, Option.or_assoc]

theorem join_empty : e.join {} = e := by
  simp only [join, List.append_nil, Option.or_none]

theorem empty_join : ({} : Endpoints α).join e = e := by
  simp only [join, List.nil_append, Option.none_or]

/-- There is no kind of endpoint that both have. -/
def Apart (e other : Endpoints α) : Prop :=
  ∀ kind, e.ofKind? kind = none ∨ other.ofKind? kind = none

theorem apart_empty : e.Apart {} := by
  intro kind
  cases kind <;> exact .inr rfl

/-- What can join one after the other can join at once. -/
theorem Apart.join (h : e.Apart other) (hmore : (e.join other).Apart more) :
    e.Apart (other.join more) := by
  intro kind
  rcases hmore kind with hnone | hnone
  · rw [ofKind?_join, Option.or_eq_none_iff] at hnone
    exact .inl hnone.1
  · rw [ofKind?_join, hnone, Option.or_none]
    exact h kind

/-- **The nearer endpoint answers.** -/
theorem find?_join (h : e.Apart other) (method : String) :
    (e.join other).find? method =
      if other.distance method < e.distance method then other.find? method
      else e.find? method := by
  rw [find?_eq_findSome?, find?_eq_findSome?, find?_eq_findSome?,
    show (e.join other).ofKind? = fun kind => (e.ofKind? kind).or (other.ofKind? kind) from
      funext fun kind => ofKind?_join kind]
  exact findSome?_or h (kinds method)

/-- No two answer a method from the same distance. -/
theorem Apart.distance_ne (h : e.Apart other) {endpoint : α}
    (hfound : e.find? method = some endpoint) : other.distance method ≠ e.distance method := by
  intro hsame
  rw [find?_eq_findSome?, findSome?_of_findIdx_eq h hsame] at hfound
  cases hfound

/-- What is nearer than something is there. -/
theorem exists_of_distance_lt (h : other.distance method < e.distance method) :
    ∃ endpoint, other.find? method = some endpoint := by
  have hle : e.distance method ≤ (kinds method).length := List.findIdx_le_length
  obtain ⟨kind, hkind, hsome⟩ := List.findIdx_lt_length.1 (Nat.lt_of_lt_of_le h hle)
  rw [find?_eq_findSome?, ← Option.isSome_iff_exists, List.findSome?_isSome_iff]
  exact ⟨kind, hkind, hsome⟩

/-- The endpoints of one pattern are put together exactly if they can join. -/
theorem mergeEndpoints_eq_ok {merged : Endpoints α}
    (h : Table.mergeEndpoints path e other = .ok merged) :
    e.Apart other ∧ merged = e.join other := by
  rw [Table.mergeEndpoints] at h
  split at h
  · cases h
  · next hoverlap =>
    split at h
    · cases h
    · next hany =>
      refine ⟨fun kind => ?_, (Except.ok.inj h).symm⟩
      cases kind with
      | none =>
        cases hown : e.any with
        | none => exact .inl hown
        | some x => exact .inr (by simpa [hown, ofKind?] using hany)
      | some verb =>
        have hnone := List.find?_eq_none.1 hoverlap verb verb.mem_all
        cases hown : e.verb? verb with
        | none => exact .inl hown
        | some x => exact .inr (by simpa [hown, ofKind?] using hnone)

end Endpoints

/-! ### Tables -/

namespace Table

variable {t t' other : Table α} {r : Route α} {routes routes' : List (Route α)}
  {text path : List Char}

/-- No pattern has two routes. -/
def Distinct (t : Table α) : Prop := (t.routes.map (·.pattern.text)).Nodup

/-- All endpoints that some routes have for a pattern. -/
def endpointsAt (text : List Char) (routes : List (Route α)) : Endpoints α :=
  routes.foldr (fun r e => if r.pattern.text = text then r.endpoints.join e else e) {}

theorem endpointsAt_cons (text : List Char) (r : Route α) (routes : List (Route α)) :
    endpointsAt text (r :: routes) =
      (if r.pattern.text = text then r.endpoints else {}).join (endpointsAt text routes) := by
  rw [endpointsAt, List.foldr_cons, ← endpointsAt, apply_ite (Endpoints.join · _)]
  simp only [Endpoints.empty_join]

theorem endpointsAt_of_notMem (h : text ∉ routes.map (·.pattern.text)) :
    endpointsAt text routes = {} := by
  induction routes with
  | nil => rfl
  | cons r routes ih =>
    rw [List.map_cons, List.mem_cons, not_or] at h
    rw [endpointsAt_cons, if_neg (Ne.symm h.1), Endpoints.empty_join, ih h.2]

theorem endpointsAt_append (text : List Char) (routes routes' : List (Route α)) :
    endpointsAt text (routes ++ routes') =
      (endpointsAt text routes).join (endpointsAt text routes') := by
  induction routes with
  | nil => exact Endpoints.empty_join.symm
  | cons r routes ih =>
    rw [List.cons_append, endpointsAt_cons, endpointsAt_cons, ih, Endpoints.join_assoc]

/-- In a table without double patterns a route has all endpoints of its pattern. -/
theorem endpointsAt_of_mem (h : (routes.map (·.pattern.text)).Nodup) (hr : r ∈ routes) :
    endpointsAt r.pattern.text routes = r.endpoints := by
  induction routes with
  | nil => exact absurd hr List.not_mem_nil
  | cons s routes ih =>
    obtain ⟨hs, hroutes⟩ := List.nodup_cons.1 h
    rw [endpointsAt_cons]
    rcases List.mem_cons.1 hr with rfl | hr
    · rw [if_pos rfl, endpointsAt_of_notMem hs, Endpoints.join_empty]
    · have hne : s.pattern.text ≠ r.pattern.text := fun heq =>
        hs (List.mem_map.2 ⟨r, hr, heq.symm⟩)
      rw [if_neg hne, Endpoints.empty_join, ih hroutes hr]

/-- A table is another one joined by some routes: it has no double patterns either, and its
endpoints for a pattern are those of both. -/
structure Joins (t : Table α) (routes : List (Route α)) (t' : Table α) : Prop where
  distinct : t'.Distinct
  apart (text : List Char) : (endpointsAt text t.routes).Apart (endpointsAt text routes)
  endpointsAt_eq (text : List Char) :
    endpointsAt text t'.routes = (endpointsAt text t.routes).join (endpointsAt text routes)

theorem distinct_empty : ({} : Table α).Distinct := List.nodup_nil

theorem joins_nil (h : t.Distinct) : t.Joins [] t :=
  ⟨h, fun _ => Endpoints.apart_empty, fun _ => Endpoints.join_empty.symm⟩

/-- What joins one after the other joins at once. -/
theorem Joins.append {u : Table α} (h : t.Joins routes u) (h' : u.Joins routes' t') :
    t.Joins (routes ++ routes') t' where
  distinct := h'.distinct
  apart := by
    intro text
    have hlater := h'.apart text
    rw [h.endpointsAt_eq] at hlater
    rw [endpointsAt_append]
    exact (h.apart text).join hlater
  endpointsAt_eq := by
    intro text
    rw [h'.endpointsAt_eq, h.endpointsAt_eq, endpointsAt_append, Endpoints.join_assoc]

/-- Endpoints that join the route of a pattern leave the patterns alone. -/
theorem map_text_addTo {pattern : Pattern} {e : Endpoints α}
    (h : addTo pattern e routes = .ok routes') :
    routes'.map (·.pattern.text) = routes.map (·.pattern.text) := by
  induction routes generalizing routes' with
  | nil => cases h; rfl
  | cons r routes ih =>
    rw [addTo] at h
    split at h
    · cases hmerge : mergeEndpoints pattern.text r.endpoints e with
      | error clash => simp [hmerge, Except.map] at h
      | ok merged =>
        obtain rfl : { r with endpoints := merged } :: routes = routes' := by
          simpa [hmerge, Except.map] using h
        rfl
    · cases hadd : addTo pattern e routes with
      | error clash => simp [hadd, Except.map] at h
      | ok more =>
        obtain rfl : r :: more = routes' := by simpa [hadd, Except.map] using h
        rw [List.map_cons, List.map_cons, ih hadd]

/-- They join the endpoints of that pattern. -/
theorem endpointsAt_addTo {pattern : Pattern} {e : Endpoints α}
    (h : addTo pattern e routes = .ok routes') (hnodup : (routes.map (·.pattern.text)).Nodup)
    (hmem : pattern.text ∈ routes.map (·.pattern.text)) :
    (endpointsAt pattern.text routes).Apart e ∧
      endpointsAt pattern.text routes' = (endpointsAt pattern.text routes).join e := by
  induction routes generalizing routes' with
  | nil => exact absurd hmem List.not_mem_nil
  | cons r routes ih =>
    obtain ⟨hr, hrest⟩ := List.nodup_cons.1 hnodup
    rw [addTo] at h
    split at h
    · next htext =>
      -- No later route has the pattern, so these are all endpoints that it has.
      have hlater : endpointsAt pattern.text routes = {} := endpointsAt_of_notMem (htext ▸ hr)
      cases hmerge : mergeEndpoints pattern.text r.endpoints e with
      | error clash => simp [hmerge, Except.map] at h
      | ok merged =>
        obtain rfl : { r with endpoints := merged } :: routes = routes' := by
          simpa [hmerge, Except.map] using h
        obtain ⟨hapart, rfl⟩ := Endpoints.mergeEndpoints_eq_ok hmerge
        rw [endpointsAt_cons, endpointsAt_cons, if_pos htext, if_pos htext, hlater,
          Endpoints.join_empty, Endpoints.join_empty]
        exact ⟨hapart, rfl⟩
    · next htext =>
      cases hadd : addTo pattern e routes with
      | error clash => simp [hadd, Except.map] at h
      | ok more =>
        obtain rfl : r :: more = routes' := by simpa [hadd, Except.map] using h
        rw [endpointsAt_cons, endpointsAt_cons, if_neg htext, Endpoints.empty_join,
          Endpoints.empty_join]
        exact ih hadd hrest ((List.mem_cons.1 hmem).resolve_left (Ne.symm htext))

/-- And no others. -/
theorem endpointsAt_addTo_of_ne {pattern : Pattern} {e : Endpoints α}
    (h : addTo pattern e routes = .ok routes') (hne : pattern.text ≠ text) :
    endpointsAt text routes' = endpointsAt text routes := by
  induction routes generalizing routes' with
  | nil => cases h; rfl
  | cons r routes ih =>
    rw [addTo] at h
    split at h
    · next htext =>
      cases hmerge : mergeEndpoints pattern.text r.endpoints e with
      | error clash => simp [hmerge, Except.map] at h
      | ok merged =>
        obtain rfl : { r with endpoints := merged } :: routes = routes' := by
          simpa [hmerge, Except.map] using h
        rw [endpointsAt_cons, endpointsAt_cons, if_neg (htext ▸ hne), if_neg (htext ▸ hne)]
    · cases hadd : addTo pattern e routes with
      | error clash => simp [hadd, Except.map] at h
      | ok more =>
        obtain rfl : r :: more = routes' := by simpa [hadd, Except.map] using h
        rw [endpointsAt_cons, endpointsAt_cons, ih hadd]

/-- A table has a route with a pattern if it has the pattern. -/
theorem hasPattern_iff : t.hasPattern text = true ↔ text ∈ t.routes.map (·.pattern.text) := by
  simp [hasPattern, List.mem_map]

/-- **Adding a route** to a table without double patterns. -/
theorem joins_insert (ht : t.Distinct) (h : t.insert r = .ok t') : t.Joins [r] t' := by
  have hsingle (text : List Char) :
      endpointsAt text [r] = if r.pattern.text = text then r.endpoints else {} :=
    (endpointsAt_cons text r []).trans Endpoints.join_empty
  rw [insert] at h
  split at h
  · next hold =>
    cases hadd : addTo r.pattern r.endpoints t.routes with
    | error clash => simp [hadd, Except.map] at h
    | ok routes =>
      obtain rfl : { t with routes } = t' := by simpa [hadd, Except.map] using h
      obtain ⟨hapart, hjoined⟩ := endpointsAt_addTo hadd ht (hasPattern_iff.1 hold)
      refine ⟨?_, fun text => ?_, fun text => ?_⟩
      · rw [Distinct, map_text_addTo hadd]
        exact ht
      · rw [hsingle]
        split
        · next htext => exact htext ▸ hapart
        · exact Endpoints.apart_empty
      · rw [hsingle]
        split
        · next htext => exact htext ▸ hjoined
        · next htext => rw [endpointsAt_addTo_of_ne hadd htext, Endpoints.join_empty]
  · next hnew =>
    have hnot : r.pattern.text ∉ t.routes.map (·.pattern.text) := fun hmem =>
      hnew (hasPattern_iff.2 hmem)
    split at h
    · cases h
    · obtain rfl : { t with routes := t.routes ++ [r] } = t' := Except.ok.inj h
      refine ⟨?_, fun text => ?_, fun text => endpointsAt_append text t.routes [r]⟩
      · rw [Distinct, List.map_append]
        refine List.nodup_append.2 ⟨ht, List.pairwise_singleton _ _, fun a ha b hb heq => ?_⟩
        rw [heq, List.mem_singleton.1 hb] at ha
        exact hnot ha
      · rw [hsingle]
        split
        · next htext =>
          rw [endpointsAt_of_notMem (htext ▸ hnot)]
          exact fun kind => .inl (by cases kind <;> rfl)
        · exact Endpoints.apart_empty

theorem joins_foldlM_insert (ht : t.Distinct) (h : routes.foldlM insert t = .ok t') :
    t.Joins routes t' := by
  induction routes generalizing t with
  | nil =>
    obtain rfl : t = t' := by simpa [pure, Except.pure] using h
    exact joins_nil ht
  | cons r routes ih =>
    obtain ⟨u, hins, hrest⟩ := foldlM_insert_cons h
    have hfirst := joins_insert ht hins
    exact hfirst.append (ih hfirst.distinct hrest)

/-- **Two tables that were put together** have for each pattern the endpoints of both. The second
one may be any table. -/
theorem joins_merge (ht : t.Distinct) (h : t.merge other = .ok t') : t.Joins other.routes t' := by
  have hjoins := joins_foldlM_insert (t := { t with fallback := t.fallback.or other.fallback }) ht
    (merge_eq_ok h)
  exact ⟨hjoins.distinct, hjoins.apart, hjoins.endpointsAt_eq⟩

/-! ### Look-up -/

/-- In a table without double patterns the pattern of a request decides who answers it. -/
theorem choose_eq_endpoint_iff (ht : t.Distinct) {method : String} {endpoint : α}
    (h : (t.choose method path).1 = some text) :
    t.choose method path = (some text, .endpoint endpoint) ↔
      (endpointsAt text t.routes).find? method = some endpoint := by
  rw [choose] at h ⊢
  cases hfound : t.find? path with
  | none =>
    rw [hfound] at h
    cases h
  | some r =>
    rw [hfound] at h
    obtain rfl : r.pattern.text = text := Option.some.inj h
    rw [endpointsAt_of_mem ht (mem_of_find? hfound)]
    cases hown : r.endpoints.find? method <;> simp [hown]

/-- **A request that keeps its pattern** when tables are put together keeps its endpoint, unless the
other table has a nearer one for the pattern, which answers then. It has none that is as near. -/
theorem choose_merge (ht : t.Distinct) (h : t.merge other = .ok t') {method : String} {endpoint : α}
    (hbefore : t.choose method path = (some text, .endpoint endpoint))
    (hafter : (t'.choose method path).1 = some text) :
    let own := endpointsAt text t.routes
    let added := endpointsAt text other.routes
    added.distance method ≠ own.distance method ∧
      ∃ answering, t'.choose method path = (some text, .endpoint answering) ∧
        if added.distance method < own.distance method then added.find? method = some answering
        else answering = endpoint := by
  intro own added
  have hjoins := joins_merge ht h
  have hown : own.find? method = some endpoint :=
    (choose_eq_endpoint_iff ht (congrArg Prod.fst hbefore)).1 hbefore
  have hjoined : (endpointsAt text t'.routes).find? method =
      if added.distance method < own.distance method then added.find? method
      else own.find? method := by
    rw [hjoins.endpointsAt_eq]
    exact Endpoints.find?_join (hjoins.apart text) method
  refine ⟨(hjoins.apart text).distance_ne hown, ?_⟩
  simp only [choose_eq_endpoint_iff hjoins.distinct hafter, hjoined]
  split
  · next hlt =>
    obtain ⟨nearer, hnearer⟩ := Endpoints.exists_of_distance_lt hlt
    exact ⟨nearer, hnearer, hnearer⟩
  · exact ⟨endpoint, hown, rfl⟩

end Table

end ProtocolGateway

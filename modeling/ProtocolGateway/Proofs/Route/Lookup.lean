import ProtocolGateway.Http.Stack

/-!
# Look-up in a table that was put together

Which route a path belongs to depends only on the routes whose patterns it has the form of. Putting
tables together leaves those alone that come from one table only: routes are added at the end, and
endpoints join a route only if the pattern is the same, so that the same paths have its form.

## Main definitions

* `Table.matching`: the routes whose patterns a path has the form of.

## Main results

* `Table.matching_merge_of_nil`: a table decides alone on a path without a pattern in the other.
* `Table.matching_merge_of_singleton`: so does the other table, if it has one route for the path.
* `Table.choose_map`: the kind of endpoints does not matter for the choice among them.
-/

namespace ProtocolGateway

/-- A pattern is known by its text. -/
theorem Pattern.eq_of_text_eq {p q : Pattern} (h : p.text = q.text) : p = q := by
  obtain ⟨text, tokens, hp⟩ := p
  obtain ⟨text', tokens', hq⟩ := q
  obtain rfl : text = text' := h
  obtain rfl : tokens = tokens' := Option.some.inj (hp.symm.trans hq)
  rfl

namespace Table

variable {α : Type} {t t' other : Table α} {r : Route α} {path : List Char}

/-- The routes whose patterns a path has the form of. -/
def matching (path : List Char) (t : Table α) : List (Route α) :=
  t.routes.filter (·.pattern.matchesPath path)

theorem matching_eq_nil_iff :
    t.matching path = [] ↔ ∀ r ∈ t.routes, r.pattern.matchesPath path = false := by
  simp [matching, List.filter_eq_nil_iff]

theorem choose_congr (hmatching : t.matching path = t'.matching path)
    (hfallback : t.fallback = t'.fallback) (method : String) :
    t.choose method path = t'.choose method path := by
  have hfind : t.find? path = t'.find? path := by
    simp only [find?, show t.routes.filter (·.pattern.matchesPath path) =
      t'.routes.filter (·.pattern.matchesPath path) from hmatching]
  rw [choose, choose, hfind, hfallback]

theorem choose_of_matching_singleton (h : t.matching path = [r]) (method : String) :
    t.choose method path = (some r.pattern.text, match r.endpoints.find? method with
      | some endpoint => .endpoint endpoint
      | none => .wrongMethod r.endpoints.allow?) := by
  have hfind : t.find? path = some r := by
    simp only [find?, show t.routes.filter (·.pattern.matchesPath path) = [r] from h,
      List.foldl_nil]
  cases hendpoint : r.endpoints.find? method with
  | none => simp only [choose, hfind, hendpoint]
  | some endpoint => simp only [choose, hfind, hendpoint]

/-! ### Putting tables together -/

/-- All that adding a route can do: its endpoints join the route of its pattern, or it becomes the
last one. -/
theorem insert_cases (h : t.insert r = .ok t') :
    (t.hasPattern r.pattern.text = true ∧
      ∃ routes, addTo r.pattern r.endpoints t.routes = .ok routes ∧ t' = { t with routes }) ∨
    t' = { t with routes := t.routes ++ [r] } := by
  rw [insert] at h
  split at h
  · next hold =>
    cases hadd : addTo r.pattern r.endpoints t.routes with
    | error e => simp [hadd, Except.map] at h
    | ok routes => exact .inl ⟨hold, routes, rfl, by simpa [hadd, Except.map] using h.symm⟩
  · split at h
    · simp at h
    · exact .inr (by simpa using h.symm)

/-- Endpoints that join a route change nothing for a path that does not have its form. -/
theorem filter_addTo {pattern : Pattern} {endpoints : Endpoints α} {routes routes' : List (Route α)}
    (h : addTo pattern endpoints routes = .ok routes') (hpath : pattern.matchesPath path = false) :
    routes'.filter (·.pattern.matchesPath path) = routes.filter (·.pattern.matchesPath path) := by
  induction routes generalizing routes' with
  | nil =>
    obtain rfl : [] = routes' := by simpa [addTo] using h
    rfl
  | cons first rest ih =>
    rw [addTo] at h
    split at h
    · next htext =>
      have hfirst : first.pattern.matchesPath path = false := by
        rw [Pattern.eq_of_text_eq htext, hpath]
      cases hmerge : mergeEndpoints pattern.text first.endpoints endpoints with
      | error e => simp [hmerge, Except.map] at h
      | ok e =>
        obtain rfl : { first with endpoints := e } :: rest = routes' := by
          simpa [hmerge, Except.map] using h
        rw [List.filter_cons_of_neg (by simp [hfirst]), List.filter_cons_of_neg (by simp [hfirst])]
    · cases hadd : addTo pattern endpoints rest with
      | error e => simp [hadd, Except.map] at h
      | ok more =>
        obtain rfl : first :: more = routes' := by simpa [hadd, Except.map] using h
        rw [List.filter_cons, List.filter_cons, ih hadd]

theorem fallback_insert (h : t.insert r = .ok t') : t'.fallback = t.fallback := by
  rcases insert_cases h with ⟨-, routes, -, rfl⟩ | rfl <;> rfl

theorem matching_insert_of_not_matches (h : t.insert r = .ok t')
    (hr : r.pattern.matchesPath path = false) : t'.matching path = t.matching path := by
  rcases insert_cases h with ⟨-, routes, hadd, rfl⟩ | rfl
  · exact filter_addTo hadd hr
  · simp [matching, hr]

/-- The route is a new one: a route of the same pattern would have been there for the path. -/
theorem matching_insert_of_nil (h : t.insert r = .ok t') (ht : t.matching path = [])
    (hr : r.pattern.matchesPath path = true) : t'.matching path = [r] := by
  rcases insert_cases h with ⟨hold, -⟩ | rfl
  · obtain ⟨s, hs, htext⟩ := List.any_eq_true.1 hold
    have hsame : s.pattern = r.pattern := Pattern.eq_of_text_eq (by simpa using htext)
    have hno := matching_eq_nil_iff.1 ht s hs
    rw [hsame, hr] at hno
    simp at hno
  · have hrest : t.routes.filter (·.pattern.matchesPath path) = [] := ht
    simp [matching, hrest, hr]

theorem foldlM_insert_cons {routes : List (Route α)}
    (h : (r :: routes).foldlM insert t = .ok t') :
    ∃ u, t.insert r = .ok u ∧ routes.foldlM insert u = .ok t' := by
  rw [List.foldlM_cons] at h
  cases hins : t.insert r with
  | error e => simp [hins, bind, Except.bind] at h
  | ok u => exact ⟨u, rfl, by simpa [hins, bind, Except.bind] using h⟩

theorem fallback_foldlM_insert {routes : List (Route α)} (h : routes.foldlM insert t = .ok t') :
    t'.fallback = t.fallback := by
  induction routes generalizing t with
  | nil =>
    obtain rfl : t = t' := by simpa [pure, Except.pure] using h
    rfl
  | cons r routes ih =>
    obtain ⟨u, hins, hrest⟩ := foldlM_insert_cons h
    rw [ih hrest, fallback_insert hins]

theorem matching_foldlM_insert_of_nil {routes : List (Route α)}
    (h : routes.foldlM insert t = .ok t')
    (hroutes : routes.filter (·.pattern.matchesPath path) = []) :
    t'.matching path = t.matching path := by
  induction routes generalizing t with
  | nil =>
    obtain rfl : t = t' := by simpa [pure, Except.pure] using h
    rfl
  | cons r routes ih =>
    obtain ⟨u, hins, hrest⟩ := foldlM_insert_cons h
    rw [List.filter_eq_nil_iff, List.forall_mem_cons] at hroutes
    rw [ih hrest (List.filter_eq_nil_iff.2 hroutes.2),
      matching_insert_of_not_matches hins (by simpa using hroutes.1)]

theorem matching_foldlM_insert_of_singleton {routes : List (Route α)}
    (h : routes.foldlM insert t = .ok t') (ht : t.matching path = [])
    (hroutes : routes.filter (·.pattern.matchesPath path) = [r]) : t'.matching path = [r] := by
  induction routes generalizing t with
  | nil => simp at hroutes
  | cons first routes ih =>
    obtain ⟨u, hins, hrest⟩ := foldlM_insert_cons h
    by_cases hfirst : first.pattern.matchesPath path = true
    · obtain ⟨rfl, hnone⟩ : first = r ∧ routes.filter (·.pattern.matchesPath path) = [] := by
        simpa only [List.filter_cons_of_pos (p := fun r : Route α => r.pattern.matchesPath path)
          hfirst, List.cons.injEq] using hroutes
      rw [matching_foldlM_insert_of_nil hrest hnone, matching_insert_of_nil hins ht hfirst]
    · rw [List.filter_cons_of_neg (by simpa using hfirst)] at hroutes
      refine ih hrest ?_ hroutes
      rw [matching_insert_of_not_matches hins (by simpa using hfirst), ht]

theorem merge_eq_ok (h : t.merge other = .ok t') :
    other.routes.foldlM insert { t with fallback := t.fallback.or other.fallback } = .ok t' := by
  rw [merge] at h
  split at h
  · simp at h
  · exact h

theorem fallback_merge (h : t.merge other = .ok t') :
    t'.fallback = t.fallback.or other.fallback := by
  rw [fallback_foldlM_insert (merge_eq_ok h)]

/-- **A path without a pattern in the other table** belongs to the routes that it had before. -/
theorem matching_merge_of_nil (h : t.merge other = .ok t') (hother : other.matching path = []) :
    t'.matching path = t.matching path := by
  rw [matching_foldlM_insert_of_nil (merge_eq_ok h) hother]
  rfl

/-- **A path with one pattern in the other table** and none in the first one belongs to that. -/
theorem matching_merge_of_singleton (h : t.merge other = .ok t') (ht : t.matching path = [])
    (hother : other.matching path = [r]) : t'.matching path = [r] :=
  matching_foldlM_insert_of_singleton (merge_eq_ok h) ht hother

end Table

/-- An endpoint for all methods answers each of them. -/
theorem Endpoints.find?_all {α : Type} (endpoint : α) (method : String) :
    (Endpoints.all endpoint).find? method = some endpoint := by
  rw [find?]
  cases Verb.ofMethod? method with
  | none => rfl
  | some verb => cases verb <;> rfl

/-! ### Another kind of endpoints -/

section map

variable {α β : Type} (f : α → β)

theorem Endpoints.verb?_map (e : Endpoints α) (verb : Verb) :
    (e.map f).verb? verb = (e.verb? verb).map f := by
  rw [verb?, verb?, map]
  induction e.verbs with
  | nil => rfl
  | cons v verbs ih =>
    obtain ⟨w, endpoint⟩ := v
    rw [List.map_cons, List.lookup_cons, List.lookup_cons, ih]
    cases verb == w <;> rfl

theorem Endpoints.any_map (e : Endpoints α) : (e.map f).any = e.any.map f := rfl

theorem Endpoints.find?_map (e : Endpoints α) (method : String) :
    (e.map f).find? method = (e.find? method).map f := by
  rw [find?, find?]
  cases Verb.ofMethod? method with
  | none => rfl
  | some verb => cases verb <;> simp [verb?_map, any_map, Option.map_or]

theorem Endpoints.allow?_map (e : Endpoints α) : (e.map f).allow? = e.allow? := by
  simp [allow?, map, Function.comp_def]

namespace Table

/-- A choice with another kind of endpoints. -/
def Choice.map : Choice α → Choice β
  | .endpoint e => .endpoint (f e)
  | .wrongMethod allow => .wrongMethod allow
  | .notFound => .notFound

/-- Which of several routes is preferred depends on the patterns only. -/
theorem foldl_prefer_map (routes : List (Route α)) (r : Route α) :
    (routes.map (Route.map f)).foldl prefer (r.map f) = (routes.foldl prefer r).map f := by
  induction routes generalizing r with
  | nil => rfl
  | cons s routes ih =>
    have hprefer : prefer (r.map f) (s.map f) = (prefer r s).map f := by
      rw [prefer, prefer, apply_ite (Route.map f)]
      rfl
    rw [List.map_cons, List.foldl_cons, List.foldl_cons, hprefer, ih]

theorem find?_map (t : Table α) (path : List Char) :
    (t.map f).find? path = (t.find? path).map (Route.map f) := by
  have hfilter : (t.map f).routes.filter (·.pattern.matchesPath path) =
      (t.routes.filter (·.pattern.matchesPath path)).map (Route.map f) := by
    rw [Table.map, List.filter_map]
    rfl
  rw [find?, find?, hfilter]
  cases t.routes.filter (·.pattern.matchesPath path) with
  | nil => rfl
  | cons r rest => exact congrArg some (foldl_prefer_map f rest r)

/-- **The choice does not look at the endpoints.** -/
theorem choose_map (t : Table α) (method : String) (path : List Char) :
    (t.map f).choose method path = ((t.choose method path).1, (t.choose method path).2.map f) := by
  rw [choose, choose, find?_map]
  cases t.find? path with
  | none =>
    rw [Table.map]
    cases t.fallback <;> rfl
  | some r =>
    rw [Option.map_some]
    simp only [Route.map, Endpoints.find?_map, Endpoints.allow?_map]
    cases r.endpoints.find? method <;> rfl

end Table

end map

end ProtocolGateway

import Mathlib.Data.Option.Basic
import ProtocolGateway.Proofs.Route.Lookup

/-!
# What all endpoints of a table have in common

Tables are put together from smaller ones, and no endpoint is made up on the way. So what all
endpoints of the smaller tables have in common, all endpoints of the whole have as well, and so has
every endpoint that the table chooses for a request.

## Main definitions

* `Table.All`: all endpoints of a table have a property.

## Main results

* `Table.All.merge`, `Table.all_ofEntries`: putting tables together keeps it.
* `Table.All.choose`: what is chosen has it.
-/

namespace ProtocolGateway

variable {α β : Type} {P : α → Prop}

/-- All endpoints of a pattern have a property. -/
structure Endpoints.All (P : α → Prop) (e : Endpoints α) : Prop where
  verbs : ∀ v ∈ e.verbs, P v.2
  any : ∀ endpoint ∈ e.any, P endpoint

/-- All endpoints of a table have a property. -/
structure Table.All (P : α → Prop) (t : Table α) : Prop where
  routes : ∀ r ∈ t.routes, r.endpoints.All P
  fallback : ∀ endpoint ∈ t.fallback, P endpoint

namespace Endpoints

variable {e other : Endpoints α} {endpoint : α}

theorem all_one {verb : Verb} (h : P endpoint) : (one verb endpoint).All P :=
  ⟨by simpa [one] using h, nofun⟩

theorem all_all (h : P endpoint) : (all endpoint).All P :=
  ⟨fun _ hv => absurd hv List.not_mem_nil, by simpa [all] using h⟩

theorem All.map {Q : β → Prop} {f : α → β} (h : e.All P) (hf : ∀ x, P x → Q (f x)) :
    (e.map f).All Q where
  verbs := by
    intro v hv
    obtain ⟨own, hown, rfl⟩ := List.mem_map.1 hv
    exact hf _ (h.verbs own hown)
  any := Option.forall_mem_map.2 fun x hx => hf x (h.any x hx)

theorem All.verb? {verb : Verb} (h : e.All P) (hfound : e.verb? verb = some endpoint) :
    P endpoint := by
  obtain ⟨before, after, hverbs, -⟩ := List.lookup_eq_some_iff.1 hfound
  refine h.verbs (verb, endpoint) ?_
  rw [hverbs]
  exact List.mem_append_right _ List.mem_cons_self

theorem All.find? {method : String} (h : e.All P) (hfound : e.find? method = some endpoint) :
    P endpoint := by
  rw [Endpoints.find?] at hfound
  rcases Option.or_eq_some_iff.1 hfound with hown | ⟨-, hany⟩
  · split at hown
    · cases hown
    · rcases Option.or_eq_some_iff.1 hown with hhead | ⟨-, hget⟩
      · exact h.verb? hhead
      · exact h.verb? hget
    · exact h.verb? hown
  · exact h.any endpoint hany

theorem All.mergeEndpoints {path : List Char} {merged : Endpoints α} (h : e.All P)
    (hother : other.All P) (hmerge : Table.mergeEndpoints path e other = .ok merged) :
    merged.All P := by
  rw [Table.mergeEndpoints] at hmerge
  split at hmerge
  · cases hmerge
  · split at hmerge
    · cases hmerge
    · cases hmerge
      refine ⟨fun v hv => ?_, fun x hx => ?_⟩
      · rcases List.mem_append.1 hv with hv | hv
        · exact h.verbs v hv
        · exact hother.verbs v hv
      · rcases Option.or_eq_some_iff.1 hx with hx | ⟨-, hx⟩
        · exact h.any x hx
        · exact hother.any x hx

end Endpoints

namespace Table

variable {t t' other : Table α} {r : Route α}

theorem all_empty : ({} : Table α).All P :=
  ⟨fun _ hr => absurd hr List.not_mem_nil, nofun⟩

theorem All.map {Q : β → Prop} {f : α → β} (h : t.All P) (hf : ∀ x, P x → Q (f x)) :
    (t.map f).All Q where
  routes := by
    intro r hr
    obtain ⟨own, hown, rfl⟩ := List.mem_map.1 hr
    exact (h.routes own hown).map hf
  fallback := Option.forall_mem_map.2 fun x hx => hf x (h.fallback x hx)

/-! ### Putting tables together -/

theorem all_addTo {pattern : Pattern} {endpoints : Endpoints α} {routes routes' : List (Route α)}
    (h : addTo pattern endpoints routes = .ok routes') (hroutes : ∀ r ∈ routes, r.endpoints.All P)
    (hendpoints : endpoints.All P) : ∀ r ∈ routes', r.endpoints.All P := by
  induction routes generalizing routes' with
  | nil =>
    cases h
    exact hroutes
  | cons first rest ih =>
    obtain ⟨hfirst, hrest⟩ := List.forall_mem_cons.1 hroutes
    rw [addTo] at h
    split at h
    · cases hmerge : mergeEndpoints pattern.text first.endpoints endpoints with
      | error e => simp [hmerge, Except.map] at h
      | ok e =>
        obtain rfl : { first with endpoints := e } :: rest = routes' := by
          simpa [hmerge, Except.map] using h
        exact List.forall_mem_cons.2 ⟨hfirst.mergeEndpoints hendpoints hmerge, hrest⟩
    · cases hadd : addTo pattern endpoints rest with
      | error e => simp [hadd, Except.map] at h
      | ok more =>
        obtain rfl : first :: more = routes' := by simpa [hadd, Except.map] using h
        exact List.forall_mem_cons.2 ⟨hfirst, ih hadd hrest⟩

theorem All.insert (ht : t.All P) (hr : r.endpoints.All P) (h : t.insert r = .ok t') :
    t'.All P := by
  rcases insert_cases h with ⟨-, routes, hadd, rfl⟩ | rfl
  · exact ⟨all_addTo hadd ht.routes hr, ht.fallback⟩
  · refine ⟨fun s hs => ?_, ht.fallback⟩
    rcases List.mem_append.1 hs with hs | hs
    · exact ht.routes s hs
    · exact List.mem_singleton.1 hs ▸ hr

theorem All.foldlM_insert {routes : List (Route α)} (ht : t.All P)
    (hroutes : ∀ r ∈ routes, r.endpoints.All P) (h : routes.foldlM Table.insert t = .ok t') :
    t'.All P := by
  induction routes generalizing t with
  | nil =>
    obtain rfl : t = t' := by simpa [pure, Except.pure] using h
    exact ht
  | cons r routes ih =>
    obtain ⟨u, hins, hrest⟩ := foldlM_insert_cons h
    obtain ⟨hr, hroutes⟩ := List.forall_mem_cons.1 hroutes
    exact ih (ht.insert hr hins) hroutes hrest

/-- **Putting two tables together** brings no other endpoints. -/
theorem All.merge (ht : t.All P) (hother : other.All P) (h : t.merge other = .ok t') :
    t'.All P := by
  have hboth : ({ t with fallback := t.fallback.or other.fallback } : Table α).All P := by
    refine ⟨ht.routes, fun x hx => ?_⟩
    rcases Option.or_eq_some_iff.1 hx with hx | ⟨-, hx⟩
    · exact ht.fallback x hx
    · exact hother.fallback x hx
  exact hboth.foldlM_insert hother.routes (merge_eq_ok h)

theorem All.add {entry : RouteEntry α} (ht : t.All P) (hentry : P entry.endpoint)
    (h : t.add? entry = some t') : t'.All P := by
  obtain ⟨path, verb, endpoint⟩ := entry
  cases path with
  | none =>
    cases h
    exact ⟨ht.routes, by simpa using hentry⟩
  | some path =>
    obtain ⟨pattern, -, hadd⟩ := Option.bind_eq_some_iff.1 h
    have hadded {endpoints : Endpoints α} (hendpoints : endpoints.All P)
        (hins : (t.insert ⟨pattern, endpoints⟩).toOption = some t') : t'.All P := by
      cases hinsert : t.insert ⟨pattern, endpoints⟩ with
      | error e => rw [hinsert] at hins; cases hins
      | ok u =>
        rw [hinsert] at hins
        cases hins
        exact ht.insert hendpoints hinsert
    cases verb with
    | none => exact hadded (Endpoints.all_all hentry) hadd
    | some verb => exact hadded (Endpoints.all_one hentry) hadd

theorem All.foldlM_add {entries : List (RouteEntry α)} (ht : t.All P)
    (hentries : ∀ e ∈ entries, P e.endpoint) (h : entries.foldlM add? t = some t') : t'.All P := by
  induction entries generalizing t with
  | nil =>
    cases h
    exact ht
  | cons entry rest ih =>
    obtain ⟨hentry, hrest⟩ := List.forall_mem_cons.1 hentries
    rw [List.foldlM_cons] at h
    obtain ⟨first, hfirst, hmore⟩ := Option.bind_eq_some_iff.1 h
    exact ih (ht.add hentry hfirst) hrest hmore

/-- **A table of entries** has their endpoints and no others. -/
theorem all_ofEntries {entries : List (RouteEntry α)} (hentries : ∀ e ∈ entries, P e.endpoint)
    (h : ofEntries? entries = some t) : t.All P :=
  all_empty.foldlM_add hentries h

/-! ### Choosing an endpoint -/

theorem foldl_prefer_mem (routes : List (Route α)) (r : Route α) :
    routes.foldl prefer r ∈ r :: routes := by
  induction routes generalizing r with
  | nil => exact List.mem_singleton_self r
  | cons s rest ih =>
    rw [List.foldl_cons]
    rcases List.mem_cons.1 (ih (prefer r s)) with hsame | hmem
    · rw [hsame, prefer]
      split <;> simp
    · exact List.mem_cons_of_mem _ (List.mem_cons_of_mem _ hmem)

/-- The route of a path is one of those whose pattern the path has the form of. -/
theorem mem_filter_of_find? {path : List Char} (h : t.find? path = some r) :
    r ∈ t.routes.filter (·.pattern.matchesPath path) := by
  rw [find?] at h
  split at h
  · cases h
  · next first rest hmatching =>
    cases h
    rw [hmatching]
    exact foldl_prefer_mem rest first

theorem mem_of_find? {path : List Char} (h : t.find? path = some r) : r ∈ t.routes :=
  (List.mem_filter.1 (mem_filter_of_find? h)).1

/-- **The endpoint that a table chooses** is one of its endpoints. -/
theorem All.choose {method : String} {path : List Char} {endpoint : α} (h : t.All P)
    (hchosen : (t.choose method path).2 = .endpoint endpoint) : P endpoint := by
  rw [Table.choose] at hchosen
  split at hchosen
  · cases hfallback : t.fallback with
    | none =>
      rw [hfallback] at hchosen
      cases hchosen
    | some x =>
      rw [hfallback] at hchosen
      cases hchosen
      exact h.fallback endpoint hfallback
  · next r hfound =>
    cases hendpoint : r.endpoints.find? method with
    | none =>
      simp only [hendpoint] at hchosen
      cases hchosen
    | some x =>
      simp only [hendpoint] at hchosen
      cases hchosen
      exact (h.routes r (mem_of_find? hfound)).find? hendpoint

end Table

end ProtocolGateway

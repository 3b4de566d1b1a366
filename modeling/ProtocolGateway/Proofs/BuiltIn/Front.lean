import ProtocolGateway.BuiltIn.Operations
import ProtocolGateway.Proofs.Http.Precedence

/-!
# The primary table of the built-in modules

The built-in modules put two routes into the primary table, for health checks and for information on
the process, both for GET requests only. Whether a route that forwards can join them, and which of
them a path belongs to, depends on where the two are written.

## Main definitions

* `builtInTable`: the two routes.
* `frontTable`: the two routes and those that forward.
* `infoChoice`: what is decided at the path for information on the process.

## Main results

* `merge_builtInTable`: the routes go together.
* `choose_frontTable_infoPath`, `choose_frontTable_health`, `choose_frontTable_of_below`: what the
  table decides for the paths of the two routes and for a reserved path.
-/

namespace ProtocolGateway

/-- The pattern for information on the process in the primary table. -/
def infoPattern : Pattern := ⟨infoPath, infoPath.map .literal, rfl⟩

/-- The pattern for information on the process in the secondary table. -/
def gatewayInfoPattern : Pattern := ⟨gatewayInfoPath, gatewayInfoPath.map .literal, rfl⟩

theorem isPlain_infoPath : IsPlain infoPath := by decide

/-- The routes of the built-in modules in the primary table. -/
def builtInTable (health : Pattern) : Table Handler :=
  { routes := [⟨health, .one .get healthHandler⟩, ⟨infoPattern, .one .get infoHandler⟩] }

/-- The route of the built-in modules in the secondary table. -/
def gatewayInfoTable : Table Handler := { routes := [⟨gatewayInfoPattern, .one .get infoHandler⟩] }

/-- A table with one route, if its pattern is one. -/
theorem Table.get?_eq (path : List Char) (handler : Handler) :
    Table.get? path handler = (Pattern.parse? path).map fun p =>
      { routes := [⟨p, .one .get handler⟩] } := by
  have hget : Table.get? path handler =
      ({} : Table Handler).add? ⟨some path, some .get, handler⟩ := by
    rw [get?, ofEntries?, List.foldlM_cons]
    cases ({} : Table Handler).add? ⟨some path, some .get, handler⟩ <;> rfl
  rw [hget]
  cases hparse : Pattern.parse? path with
  | none =>
    have hadd : ({} : Table Handler).add? ⟨some path, some .get, handler⟩ =
        (Pattern.parse? path).bind fun p =>
          (({} : Table Handler).insert ⟨p, .one .get handler⟩).toOption := rfl
    rw [hadd, hparse]
    rfl
  | some p =>
    rw [add?_of_parse? hparse, insert_of_fits (by simp)]
    rfl

variable {reserved : List Char} {health : Pattern}

/-- The two routes go together. -/
theorem merge_infoRoute (hhealth : health.text ≠ infoPath) :
    ({ routes := [⟨health, .one .get healthHandler⟩] } : Table Handler).merge
      { routes := [⟨infoPattern, .one .get infoHandler⟩] } = .ok (builtInTable health) := by
  have hfits : infoPattern.Fits health :=
    (Pattern.fits_of_isPlain (p := infoPattern) isPlain_infoPath hhealth).1
  rw [Table.merge_of_fits rfl (by simpa using hfits) (by simp)]
  rfl

/-- The endpoints for information on the process in the primary table, once the routes that forward
have joined. They meet at a reserved path that is that of the information itself. -/
def infoEndpoints (reserved : List Char) : Endpoints Endpoint :=
  { verbs := [(.get, .handler infoHandler)]
    any := if reserved = infoPath then some .forward else none }

/-- The routes of the built-in modules and those that forward. -/
def frontTable (health : Pattern) (f : ForwardPatterns reserved) : Table Endpoint :=
  { routes :=
      ⟨health, .one .get (.handler healthHandler)⟩ :: ⟨infoPattern, infoEndpoints reserved⟩ ::
        f.routes.filter (·.pattern.text ≠ infoPath) }

theorem mem_routes_iff {f : ForwardPatterns reserved} {r : Route Endpoint} :
    r ∈ f.routes ↔ ∃ p ∈ f.list, ⟨p, .all .forward⟩ = r := List.mem_map

/-- Only the reserved path itself can be the path for information on the process. -/
theorem text_ne_infoPath (f : ForwardPatterns reserved) :
    f.slash.text ≠ infoPath ∧ f.below.text ≠ infoPath := by
  have hlast : infoPath.getLast? = some 'o' := rfl
  refine ⟨fun h => ?_, fun h => ?_⟩
  · rw [← h, f.text_slash, List.getLast?_append] at hlast
    cases hlast
  · rw [← h, f.text_below, List.getLast?_append] at hlast
    cases hlast

/-- A route that forwards and has the path for information on the process joins the route there. -/
theorem insert_itself (f : ForwardPatterns infoPath) (hhealth : health.text ≠ infoPath) :
    ((builtInTable health).map .handler).insert ⟨f.itself, .all .forward⟩ =
      .ok { routes := [⟨health, .one .get (.handler healthHandler)⟩,
        ⟨infoPattern, infoEndpoints infoPath⟩] } := by
  have hhas : ((builtInTable health).map Endpoint.handler).hasPattern f.itself.text = true :=
    List.any_eq_true.2 ⟨⟨infoPattern, .one .get (.handler infoHandler)⟩,
      List.mem_cons_of_mem _ List.mem_cons_self, by rw [f.text_itself]; rfl⟩
  have hadd : Table.addTo f.itself (.all .forward)
      [(⟨health, .one .get (.handler healthHandler)⟩ : Route Endpoint),
        ⟨infoPattern, .one .get (.handler infoHandler)⟩] =
      .ok [⟨health, .one .get (.handler healthHandler)⟩,
        ⟨infoPattern, infoEndpoints infoPath⟩] := by
    rw [Table.addTo, if_neg (by rwa [f.text_itself]), Table.addTo,
      if_pos (by rw [f.text_itself]; rfl)]
    rfl
  rw [Table.insert, if_pos hhas]
  exact congrArg (Except.map fun routes => ({ routes } : Table Endpoint)) hadd

/-- All routes that forward fit beside those of the built-in modules, but for one at the path for
information on the process. -/
theorem fits_routes (hplain : IsPlain reserved) (f : ForwardPatterns reserved)
    (hhealth : pathBelow? reserved health.text = none) {r : Route Endpoint} (hr : r ∈ f.routes)
    (hinfo : r.pattern.text ≠ infoPath) {e e' : Endpoints Endpoint} :
    ∀ s ∈ [(⟨health, e⟩ : Route Endpoint), ⟨infoPattern, e'⟩], r.pattern.Fits s.pattern := by
  obtain ⟨p, hp, rfl⟩ := mem_routes_iff.1 hr
  have hbeside : p.Fits infoPattern :=
    (Pattern.fits_of_isPlain (p := infoPattern) isPlain_infoPath hinfo).2
  simpa using ⟨f.fits hplain hhealth hp, hbeside⟩

/-- If the path for information on the process is reserved itself, its route gets an endpoint for
the other methods, and the other routes that forward join. -/
theorem merge_builtInTable_infoPath (f : ForwardPatterns infoPath)
    (hhealth : pathBelow? infoPath health.text = none) (hinfo : health.text ≠ infoPath) :
    ((builtInTable health).map .handler).merge { routes := f.routes } =
      .ok (frontTable health f) := by
  obtain ⟨hslash, hbelow⟩ := text_ne_infoPath f
  -- The table after the first of the routes that forward: the other two do not meet a route.
  let joined : Table Endpoint := { routes := [⟨health, .one .get (.handler healthHandler)⟩,
    ⟨infoPattern, infoEndpoints infoPath⟩] }
  have hkept : f.routes.filter (·.pattern.text ≠ infoPath) = f.routes.tail := by
    simp [ForwardPatterns.routes, ForwardPatterns.list, f.text_itself, hslash, hbelow]
  have hlater : ∀ r ∈ f.routes.tail, ∀ s ∈ joined.routes, r.pattern.Fits s.pattern := by
    intro r hr
    rw [← hkept, List.mem_filter] at hr
    exact fits_routes isPlain_infoPath f hhealth hr.1 (by simpa using hr.2)
  have hrest : f.routes.tail.foldlM Table.insert joined = .ok (frontTable health f) := by
    rw [Table.foldlM_insert_of_fits hlater (f.pairwise_routes isPlain_infoPath).tail, frontTable,
      hkept]
    rfl
  rw [Table.merge, if_neg (by simp)]
  refine (List.foldlM_cons ..).trans ?_
  exact (congrArg (· >>= f.routes.tail.foldlM Table.insert) (insert_itself f hinfo)).trans hrest

/-- **The routes of the built-in modules and those that forward go together**, if the health checks
are written elsewhere. -/
theorem merge_builtInTable (hplain : IsPlain reserved) (f : ForwardPatterns reserved)
    (hhealth : pathBelow? reserved health.text = none) (hinfo : health.text ≠ infoPath) :
    ((builtInTable health).map .handler).merge { routes := f.routes } =
      .ok (frontTable health f) := by
  by_cases hreserved : reserved = infoPath
  · subst hreserved
    exact merge_builtInTable_infoPath f hhealth hinfo
  · obtain ⟨hslash, hbelow⟩ := text_ne_infoPath f
    have hall : ∀ r ∈ f.routes, r.pattern.text ≠ infoPath := by
      simpa [ForwardPatterns.routes, ForwardPatterns.list, f.text_itself] using
        ⟨hreserved, hslash, hbelow⟩
    have hkept : f.routes.filter (·.pattern.text ≠ infoPath) = f.routes := by
      rw [List.filter_eq_self]
      exact fun r hr => by simpa using hall r hr
    have hbeside : ∀ r ∈ f.routes, ∀ s ∈ ((builtInTable health).map Endpoint.handler).routes,
        r.pattern.Fits s.pattern :=
      fun r hr => fits_routes hplain f hhealth hr (hall r hr)
    rw [Table.merge_of_fits rfl hbeside (f.pairwise_routes hplain), frontTable, hkept,
      infoEndpoints, if_neg hreserved]
    rfl

/-! ### Look-up -/

/-- The endpoint of GET answers HEAD as well. -/
theorem find?_get {α : Type} (get : α) (any : Option α) (method : String) :
    (⟨[(.get, get)], any⟩ : Endpoints α).find? method =
      if method = Verb.get.name ∨ method = Verb.head.name then some get else any := by
  rw [Endpoints.find?]
  cases hverb : Verb.ofMethod? method with
  | none =>
    have hno (v : Verb) : method ≠ v.name := by
      rintro rfl
      rw [Verb.ofMethod?_name] at hverb
      cases hverb
    rw [if_neg (by simp [hno])]
    rfl
  | some v =>
    have hname : v.name = method := by simpa using List.find?_some hverb
    rw [← hname]
    cases v <;> rfl

/-- **The path for information on the process** belongs to its route, wherever it is. -/
theorem find?_frontTable_infoPath (f : ForwardPatterns reserved) (hinfo : health.text ≠ infoPath) :
    (frontTable health f).find? infoPath = some ⟨infoPattern, infoEndpoints reserved⟩ := by
  refine Table.find?_text (r := ⟨infoPattern, infoEndpoints reserved⟩) isPlain_infoPath
    (List.mem_cons_of_mem _ List.mem_cons_self) fun s hs htext => ?_
  rcases List.mem_cons.1 hs with rfl | hs
  · exact absurd htext hinfo
  · rcases List.mem_cons.1 hs with rfl | hs
    · rfl
    · have hne : s.pattern.text ≠ infoPath := by simpa using (List.mem_filter.1 hs).2
      exact absurd htext hne

/-- **The path of the health checks** belongs to their route, if it is written without braces. -/
theorem find?_frontTable_health (f : ForwardPatterns reserved) (hplain : IsPlain health.text)
    (hhealth : pathBelow? reserved health.text = none) (hinfo : health.text ≠ infoPath) :
    (frontTable health f).find? health.text =
      some ⟨health, .one .get (.handler healthHandler)⟩ := by
  let route : Route Endpoint := ⟨health, .one .get (.handler healthHandler)⟩
  refine Table.find?_text (r := route) hplain List.mem_cons_self fun s hs htext => ?_
  rcases List.mem_cons.1 hs with rfl | hs
  · rfl
  · rcases List.mem_cons.1 hs with rfl | hs
    · exact absurd htext.symm hinfo
    · obtain ⟨p, hp, rfl⟩ := mem_routes_iff.1 (List.mem_filter.1 hs).1
      have hbelow : pathBelow? reserved health.text ≠ none := htext ▸ f.pathBelow?_text hp
      exact absurd hhealth hbelow

/-- **Every other reserved path** belongs to a route that forwards. -/
theorem find?_frontTable_of_below (hplain : IsPlain reserved) (f : ForwardPatterns reserved)
    (hhealth : pathBelow? reserved health.text = none) {path : List Char}
    (hpath : (pathBelow? reserved path).isSome) (hinfo : path ≠ infoPath) :
    ∃ p ∈ f.list, (frontTable health f).find? path = some ⟨p, .all .forward⟩ := by
  obtain ⟨p, hfilter⟩ := (Pattern.filter_reserved hplain
    (f.text_itself.trans (List.append_nil _).symm) f.text_slash f.text_below path).2 hpath
  have honly (q : Pattern) : q ∈ f.list ∧ q.matchesPath path = true ↔ q = p := by
    rw [← List.mem_singleton (a := q) (b := p), ← hfilter, List.mem_filter]
    rfl
  obtain ⟨hp, hmatches⟩ := (honly p).2 rfl
  have hne : p.text ≠ infoPath := by
    intro htext
    have hplain : IsPlain p.text := htext ▸ isPlain_infoPath
    exact hinfo (((Pattern.matchesPath_iff_of_isPlain hplain).1 hmatches).trans htext)
  refine ⟨p, hp, Table.find?_forward hplain hp hmatches ?_ fun s hs hs' => ?_⟩
  · have hroute : ⟨p, .all .forward⟩ ∈ f.routes := mem_routes_iff.2 ⟨p, hp, rfl⟩
    have hkept : ⟨p, .all .forward⟩ ∈ f.routes.filter (·.pattern.text ≠ infoPath) :=
      List.mem_filter.2 ⟨hroute, by simpa using hne⟩
    exact List.mem_cons_of_mem _ (List.mem_cons_of_mem _ hkept)
  · rcases List.mem_cons.1 hs with rfl | hs
    · exact .inr hhealth
    · rcases List.mem_cons.1 hs with rfl | hs
      · exact absurd ((Pattern.matchesPath_iff_of_isPlain isPlain_infoPath).1 hs') hinfo
      · obtain ⟨q, hq, rfl⟩ := mem_routes_iff.1 (List.mem_filter.1 hs).1
        rw [(honly q).1 ⟨hq, hs'⟩]
        exact .inl rfl

/-- What is decided at the path for information on the process. Its route has an endpoint for GET
only; the route that forwards, if it is the same one, has the other methods. -/
def infoChoice (reserved : List Char) (method : String) : Table.Choice Endpoint :=
  if method = Verb.get.name ∨ method = Verb.head.name then .endpoint (.handler infoHandler)
  else if reserved = infoPath then .endpoint .forward
  else .wrongMethod (some "GET,HEAD")

theorem choose_frontTable_infoPath (f : ForwardPatterns reserved) (hinfo : health.text ≠ infoPath)
    (method : String) :
    (frontTable health f).choose method infoPath = (some infoPath, infoChoice reserved method) := by
  rw [Table.choose, find?_frontTable_infoPath f hinfo]
  simp only [infoEndpoints, find?_get, infoChoice]
  by_cases hown : method = Verb.get.name ∨ method = Verb.head.name
  · rw [if_pos hown, if_pos hown]
    rfl
  · rw [if_neg hown, if_neg hown]
    by_cases hreserved : reserved = infoPath
    · rw [if_pos hreserved, if_pos hreserved]
      rfl
    · rw [if_neg hreserved, if_neg hreserved]
      rfl

theorem choose_frontTable_health (f : ForwardPatterns reserved) (hplain : IsPlain health.text)
    (hhealth : pathBelow? reserved health.text = none) (hinfo : health.text ≠ infoPath) :
    (frontTable health f).choose Verb.get.name health.text =
      (some health.text, .endpoint (.handler healthHandler)) := by
  rw [Table.choose, find?_frontTable_health f hplain hhealth hinfo]
  rfl

theorem choose_frontTable_of_below (hplain : IsPlain reserved) (f : ForwardPatterns reserved)
    (hhealth : pathBelow? reserved health.text = none) {path : List Char}
    (hpath : (pathBelow? reserved path).isSome) (hinfo : path ≠ infoPath) (method : String) :
    ((frontTable health f).choose method path).2 = .endpoint .forward := by
  obtain ⟨p, -, hfind⟩ := find?_frontTable_of_below hplain f hhealth hpath hinfo
  rw [Table.choose, hfind]
  simp only [Endpoints.find?_all]

/-- The forwarding routes have the path for information on the process only if it is reserved
itself, and then not for the methods that its own route answers. -/
theorem infoChoice_eq_forward_iff {method : String} :
    infoChoice reserved method = .endpoint .forward ↔
      reserved = infoPath ∧ method ≠ Verb.get.name ∧ method ≠ Verb.head.name := by
  rw [infoChoice]
  split
  · next hown =>
    constructor
    · intro h
      cases h
    · exact fun h => absurd hown (not_or.2 h.2)
  · next hown =>
    split
    · next hreserved => exact ⟨fun _ => ⟨hreserved, not_or.1 hown⟩, fun _ => rfl⟩
    · next hreserved =>
      constructor
      · intro h
        cases h
      · exact fun h => absurd h.1 hreserved

end ProtocolGateway

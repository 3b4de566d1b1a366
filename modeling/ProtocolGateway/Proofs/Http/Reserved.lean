import ProtocolGateway.Proofs.Route.Literal
import ProtocolGateway.Proofs.Uri.Below

/-!
# Which requests are forwarded

Whether a path is reserved is decided twice: by the patterns of the routes that forward, and by the
test that finds what is left of the path for the secondary table. Both describe the same paths, the
reserved one and those that go on after it with a slash, as long as the reserved path is a literal
text. So a request that is forwarded is never refused by the test, and what is around the routes of
the primary table does not see them on any other path.

## Main definitions

* `Stacks.Forwards`: the primary table sends a request to the secondary one.

## Main results

* `Table.matching_reserved`: the routes that forward have a path exactly if something is left of it.
* `Stacks.forwards_iff_below`: which requests are forwarded.
-/

namespace ProtocolGateway

/-! ### The routes that forward -/

section reserved

variable {reserved path : List Char}

/-- Of the patterns for a reserved path, one is for the path itself, one for a slash after it, and
one for all that goes on after the slash: no path has the form of two. -/
theorem Pattern.filter_reserved {p₁ p₂ p₃ : Pattern} (hplain : IsPlain reserved)
    (h₁ : p₁.text = reserved ++ "".toList) (h₂ : p₂.text = reserved ++ "/".toList)
    (h₃ : p₃.text = reserved ++ "/\x7b*rest\x7d".toList) (path : List Char) :
    (pathBelow? reserved path = none → [p₁, p₂, p₃].filter (·.matchesPath path) = []) ∧
    ((pathBelow? reserved path).isSome → ∃ p, [p₁, p₂, p₃].filter (·.matchesPath path) = [p]) := by
  have t₁ : readTokens none (unescape "".toList) = some [] := rfl
  have t₂ : readTokens none (unescape "/".toList) = some [.literal '/'] := rfl
  have t₃ : readTokens none (unescape "/\x7b*rest\x7d".toList) =
      some [.literal '/', .rest "rest".toList] := rfl
  have m₁ := matchesPath_of_text_eq_append h₁ hplain t₁ path
  have m₂ := matchesPath_of_text_eq_append h₂ hplain t₂ path
  have m₃ := matchesPath_of_text_eq_append h₃ hplain t₃ path
  rw [pathBelow?]
  cases hdrop : Text.dropStart? reserved path with
  | none => simp [m₁, m₂, m₃, hdrop]
  | some rest =>
    cases rest with
    | nil => simp [m₁, m₂, m₃, hdrop, Token.matchesPath]
    | cons c rest =>
      by_cases hc : c = '/'
      · cases rest <;> simp [m₁, m₂, m₃, hdrop, hc, Token.matchesPath]
      · simp [m₁, m₂, m₃, hdrop, hc, Ne.symm hc, Token.matchesPath]

namespace Table

variable {t : Table Endpoint}

/-- The table of the routes that forward, put together from routes of three patterns. -/
theorem exists_patterns_of_reserved (h : Table.ofEntries? (reservedEntries reserved) = some t) :
    ∃ p₁ p₂ p₃ : Pattern, p₁.text = reserved ++ "".toList ∧ p₂.text = reserved ++ "/".toList ∧
      p₃.text = reserved ++ "/\x7b*rest\x7d".toList ∧
      ([p₁, p₂, p₃].map fun p => (⟨p, .all .forward⟩ : Route Endpoint)).foldlM insert {} =
        .ok t := by
  have h : (([reserved ++ "".toList, reserved ++ "/".toList,
      reserved ++ "/\x7b*rest\x7d".toList] : List (List Char)).map
        fun path => (⟨some path, none, .forward⟩ : RouteEntry Endpoint)).foldlM add? {} =
          some t := h
  obtain ⟨patterns, htexts, hins⟩ := exists_routes_of_foldlM_add? h
  obtain ⟨p₁, l₁, rfl, h₁, htexts⟩ := List.map_eq_cons_iff.1 htexts
  obtain ⟨p₂, l₂, rfl, h₂, htexts⟩ := List.map_eq_cons_iff.1 htexts
  obtain ⟨p₃, l₃, rfl, h₃, htexts⟩ := List.map_eq_cons_iff.1 htexts
  obtain rfl := List.map_eq_nil_iff.1 htexts
  exact ⟨p₁, p₂, p₃, h₁, h₂, h₃, hins⟩

theorem fallback_reserved (h : Table.ofEntries? (reservedEntries reserved) = some t) :
    t.fallback = none := by
  obtain ⟨p₁, p₂, p₃, -, -, -, hins⟩ := exists_patterns_of_reserved h
  exact fallback_foldlM_insert hins

/-- A reserved path is not empty: it is the text of a pattern. -/
theorem ne_nil_of_reserved (h : Table.ofEntries? (reservedEntries reserved) = some t) :
    reserved ≠ [] := by
  obtain ⟨p₁, p₂, p₃, h₁, -, -, -⟩ := exists_patterns_of_reserved h
  rw [show reserved ++ "".toList = reserved from List.append_nil _] at h₁
  exact h₁ ▸ p₁.text_ne_nil

/-- **The routes that forward** have a path exactly if something is left of it below the reserved
one; then it has the form of one pattern only. -/
theorem matching_reserved (h : Table.ofEntries? (reservedEntries reserved) = some t)
    (hplain : IsPlain reserved) :
    (pathBelow? reserved path = none → t.matching path = []) ∧
    ((pathBelow? reserved path).isSome →
      ∃ pattern, t.matching path = [⟨pattern, .all .forward⟩]) := by
  obtain ⟨p₁, p₂, p₃, h₁, h₂, h₃, hins⟩ := exists_patterns_of_reserved h
  obtain ⟨hnone, hsome⟩ := Pattern.filter_reserved hplain h₁ h₂ h₃ path
  have hfilter : ([p₁, p₂, p₃].map fun p => (⟨p, .all .forward⟩ : Route Endpoint)).filter
      (·.pattern.matchesPath path) =
        ([p₁, p₂, p₃].filter (·.matchesPath path)).map fun p => ⟨p, .all .forward⟩ :=
    List.filter_map
  refine ⟨fun hpath => ?_, fun hpath => ?_⟩
  · rw [matching_foldlM_insert_of_nil hins (by rw [hfilter, hnone hpath]; rfl)]
    rfl
  · obtain ⟨p, hp⟩ := hsome hpath
    exact ⟨p, matching_foldlM_insert_of_singleton hins rfl (by rw [hfilter, hp]; rfl)⟩

end Table

end reserved

/-! ### The stacks -/

theorem isPlain_trimmedPrefix {g : GatewaySettings} (h : IsPlain g.pathPrefix.toList) :
    IsPlain g.trimmedPrefix := by
  intro c hc
  have hmem := (List.dropWhile_sublist _).subset (List.mem_reverse.1 hc)
  exact h c (List.mem_reverse.1 hmem)

theorem Table.serve_congr {α : Type} {t t' : Table α} {request : Request}
    (h : t.choose request.method request.uri.path = t'.choose request.method request.uri.path)
    (layers : Service → Service) (run : α → Service) :
    t.serve layers run request = t'.serve layers run request := by
  rw [serve, serve, h]

namespace Stacks

variable {s : Settings} {http gateway : Table Handler} {g : Stacks} {request : Request}

/-- The primary table sends the request to the secondary one. -/
def Forwards (g : Stacks) (request : Request) : Prop :=
  (g.front.choose request.method request.uri.path).2 = .endpoint .forward

instance (g : Stacks) (request : Request) : Decidable (g.Forwards request) :=
  match h : (g.front.choose request.method request.uri.path).2 with
  | .endpoint .forward => isTrue h
  | .endpoint (.handler _) => isFalse fun hforward => nomatch h.symm.trans hforward
  | .wrongMethod _ => isFalse fun hforward => nomatch h.symm.trans hforward
  | .notFound => isFalse fun hforward => nomatch h.symm.trans hforward

/-- A request below the reserved path is passed on. -/
theorem dispatch_of_below? {reserved : List Char} {uri : Uri} {r : Request}
    (h : r.uri.below? reserved = some uri) (inner : Service) :
    dispatch reserved inner r = inner { r with uri, route := none } := by
  rw [dispatch, h]

/-- The tables and values that stacks are built of. -/
theorem build?_eq_some (h : build? s http gateway = some g) :
    ∃ forwarding, Table.ofEntries? (reservedEntries s.gateway.trimmedPrefix) = some forwarding ∧
      (http.map .handler).merge forwarding = .ok g.front ∧ g.back = gateway ∧
      g.reserved = s.gateway.trimmedPrefix ∧ g.requestMs = s.timeouts.requestMs ∧
      g.maxBodyBytes = s.limits.maxBodyBytes := by
  obtain ⟨forwarding, hforwarding, h⟩ := Option.bind_eq_some_iff.1 h
  refine ⟨forwarding, hforwarding, ?_⟩
  cases hmerge : (http.map .handler).merge forwarding with
  | error e => simp [hmerge, Except.toOption] at h
  | ok front =>
    obtain rfl : _ = g := by simpa [hmerge, Except.toOption] using h
    exact ⟨rfl, rfl, rfl, rfl, rfl⟩

/-- No handler of the primary table itself forwards. -/
theorem choose_handlers_ne_forward (http : Table Handler) (method : String) (path : List Char) :
    ((http.map Endpoint.handler).choose method path).2 ≠ .endpoint .forward := by
  rw [Table.choose_map]
  cases (http.choose method path).2 <;> simp [Table.Choice.map]

/-- Outside the reserved paths the primary table chooses as it did without the routes that
forward. -/
theorem choose_front_of_pathBelow?_eq_none (h : build? s http gateway = some g)
    (hplain : IsPlain s.gateway.pathPrefix.toList) {path : List Char}
    (hpath : pathBelow? s.gateway.trimmedPrefix path = none) (method : String) :
    g.front.choose method path = (http.map .handler).choose method path := by
  obtain ⟨forwarding, hforwarding, hmerge, -⟩ := build?_eq_some h
  have hnone := (Table.matching_reserved hforwarding (isPlain_trimmedPrefix hplain)).1 hpath
  refine Table.choose_congr (Table.matching_merge_of_nil hmerge hnone) ?_ method
  rw [Table.fallback_merge hmerge, Table.fallback_reserved hforwarding, Option.or_none]

/-- On a reserved path that no other route has, it forwards. -/
theorem choose_front_of_pathBelow?_isSome (h : build? s http gateway = some g)
    (hplain : IsPlain s.gateway.pathPrefix.toList) {path : List Char}
    (hpath : (pathBelow? s.gateway.trimmedPrefix path).isSome)
    (hfree : ∀ r ∈ http.routes, r.pattern.matchesPath path = false) (method : String) :
    (g.front.choose method path).2 = .endpoint .forward := by
  obtain ⟨forwarding, hforwarding, hmerge, -⟩ := build?_eq_some h
  obtain ⟨pattern, hpattern⟩ :=
    (Table.matching_reserved hforwarding (isPlain_trimmedPrefix hplain)).2 hpath
  have hfree : (http.map Endpoint.handler).matching path = [] := by
    rw [Table.matching_eq_nil_iff]
    intro r hr
    obtain ⟨own, hown, rfl⟩ := List.mem_map.1 hr
    exact hfree own hown
  rw [Table.choose_of_matching_singleton (Table.matching_merge_of_singleton hmerge hfree hpattern)]
  simp only [Endpoints.find?_all]

/-- Something is left of a URI below the reserved path exactly if something is left of its path. -/
theorem isSome_below?_iff (h : build? s http gateway = some g) {text : List Char}
    (huri : Uri.parse text = .ok request.uri) :
    (request.uri.below? s.gateway.trimmedPrefix).isSome ↔
      (pathBelow? s.gateway.trimmedPrefix request.uri.path).isSome := by
  obtain ⟨forwarding, hforwarding, -⟩ := build?_eq_some h
  rw [Uri.below?_eq_map (Table.ne_nil_of_reserved hforwarding) (Uri.wellFormed_of_parse huri),
    Option.isSome_map]

/-- **Which requests the primary table forwards**, of those whose path no pattern of another route
has: those below the reserved path. -/
theorem forwards_iff_below (h : build? s http gateway = some g)
    (hplain : IsPlain s.gateway.pathPrefix.toList) {text : List Char}
    (huri : Uri.parse text = .ok request.uri)
    (hfree : ∀ r ∈ http.routes, r.pattern.matchesPath request.uri.path = false) :
    g.Forwards request ↔ (request.uri.below? s.gateway.trimmedPrefix).isSome := by
  rw [isSome_below?_iff h huri]
  refine ⟨fun hforwards => ?_, fun hpath => ?_⟩
  · by_contra hpath
    rw [Forwards, choose_front_of_pathBelow?_eq_none h hplain (by simpa using hpath)] at hforwards
    exact choose_handlers_ne_forward http _ _ hforwards
  · exact choose_front_of_pathBelow?_isSome h hplain hpath hfree _

end Stacks

end ProtocolGateway

import ProtocolGateway.Http.Verb
import ProtocolGateway.Route.Pattern
import ProtocolGateway.Text.Quoted
import ProtocolGateway.Total

/-!
# Route tables

A table says for patterns and verbs which endpoint answers, with an endpoint for all other methods
of a pattern and one for paths without a pattern, both optional. What an endpoint is, is left open.

Tables are put together from smaller ones. Two tables that would both answer a request, or whose
patterns cannot be told apart, do not go together.

## Main definitions

* `Table.find?`: the route of a path.
* `Endpoints.find?`: the endpoint of a method.
* `Table.merge`: puts two tables together.
-/

namespace ProtocolGateway

/-- The endpoints of one pattern. -/
structure Endpoints (α : Type) where
  /-- An endpoint for each of some verbs, in the order in which they were added. -/
  verbs : List (Verb × α) := []
  /-- The endpoint of all other methods. -/
  any : Option α := none
deriving DecidableEq, Repr

namespace Endpoints

variable {α : Type}

/-- The endpoint of one verb only. -/
def one (verb : Verb) (endpoint : α) : Endpoints α := { verbs := [(verb, endpoint)] }

/-- One endpoint for all methods. -/
def all (endpoint : α) : Endpoints α := { any := some endpoint }

/-- The endpoint of a verb. -/
def verb? (verb : Verb) (e : Endpoints α) : Option α := e.verbs.lookup verb

/-- The endpoint of a method. Without one of its own, HEAD is answered like GET. -/
def find? (method : String) (e : Endpoints α) : Option α :=
  let own := match Verb.ofMethod? method with
    | none => none
    | some .head => (e.verb? .head).or (e.verb? .get)
    | some verb => e.verb? verb
  own.or e.any

/-- The methods that an allow header lists for a verb. -/
def allowed : Verb → String
  | .get => "GET,HEAD"
  | verb => verb.name

/-- The allow header, if there are methods without an endpoint. -/
def allow? (e : Endpoints α) : Option String :=
  if e.any.isSome then none else some (",".intercalate (e.verbs.map fun v => allowed v.1))

/-- The first verb that both have an endpoint for. -/
def overlap? (e other : Endpoints α) : Option Verb :=
  Verb.all.find? fun v => (e.verb? v).isSome && (other.verb? v).isSome

end Endpoints

/-- A pattern with its endpoints. -/
structure Route (α : Type) where
  pattern : Pattern
  endpoints : Endpoints α
deriving DecidableEq, Repr

/-- Why two tables do not go together. -/
inductive RouteClash where
  /-- Both have an endpoint for a verb of a pattern. -/
  | verb (verb : Verb) (path : List Char)
  /-- Both have an endpoint for all other methods of a pattern. -/
  | anyMethod
  /-- Both have an endpoint for paths without a pattern. -/
  | fallback
  /-- A pattern of one cannot be told apart from a pattern of the other. -/
  | pattern (path : List Char) (other : List Char)
deriving DecidableEq, Repr

/-- The wording of a clash. -/
def RouteClash.message : RouteClash → String
  | .verb v path =>
    "Overlapping method route. Handler for \x60" ++ v.name ++ " " ++ String.ofList path ++
      "\x60 already exists"
  | .anyMethod => "Cannot merge two \x60MethodRouter\x60s that both have a fallback"
  | .fallback => "Cannot merge two \x60Router\x60s that both have a fallback"
  | .pattern path other =>
    "Invalid route " ++ Text.quoted path ++
      ": Insertion failed due to conflict with previously registered route: " ++
      String.ofList other

/-- A route table. -/
structure Table (α : Type) where
  /-- The routes in the order in which they were added. -/
  routes : List (Route α) := []
  /-- The endpoint of paths without a pattern. -/
  fallback : Option α := none
deriving DecidableEq, Repr

namespace Token

/-- The pieces of a pattern with octets in place of characters. -/
def toOctets : List (Token Char) → List (Token UInt8)
  | [] => []
  | .literal c :: tokens => (String.utf8EncodeChar c).map .literal ++ toOctets tokens
  | .segment name :: tokens => .segment name :: toOctets tokens
  | .rest name :: tokens => .rest name :: toOctets tokens

/-- What is left of the second pattern where the two differ first. -/
def afterCommon {α : Type} [DecidableEq α] : List (Token α) → List (Token α) → List (Token α)
  | .literal a :: p, .literal b :: q => if a = b then afterCommon p q else .literal b :: q
  | .segment _ :: p, .segment _ :: q => afterCommon p q
  | _, q => q

end Token

namespace Table

variable {α : Type}

/-! ### Look-up -/

/-- Of two routes the one that a path belongs to that has the form of both patterns. -/
def prefer (r s : Route α) : Route α :=
  if Token.preferred s.pattern.tokens r.pattern.tokens then s else r

/-- The route of a path: among the patterns that it has the form of, the preferred one. -/
def find? (path : List Char) (t : Table α) : Option (Route α) :=
  match t.routes.filter (·.pattern.matchesPath path) with
  | [] => none
  | r :: rest => some (rest.foldl prefer r)

/-! ### Putting tables together -/

/-- Whether the piece is a literal that starts with the octet. -/
def startsWith (b : UInt8) : List (Token UInt8) → Bool
  | .literal c :: _ => b == c
  | _ => false

/-- The first octets of patterns, in their order. -/
def firstOctets {β : Type} (items : List (List (Token UInt8) × β)) : List UInt8 :=
  items.filterMap fun item => match item.1 with
    | .literal b :: _ => some b
    | _ => none

/-- The octet that most of a list are; of several the one that is so first. -/
def mostFrequent? (octets : List UInt8) : Option UInt8 :=
  let most := (octets.map octets.count).max?.getD 0
  let reached (n : Nat) : Option UInt8 :=
    (octets.take n).find? fun b => (octets.take n).count b = most
  (List.range (octets.length + 1)).findSome? reached

/-- Among patterns that start alike, the one that messages name: step by step, those that most
patterns go on with, or a segment or rest if no pattern goes on with a literal. -/
def leader? {β : Type} : Nat → List (List (Token UInt8) × β) → Option β
  | 0, items => items.head?.map (·.2)
  | fuel + 1, items =>
    let longer := items.filter (!·.1.isEmpty)
    if longer.isEmpty then items.head?.map (·.2)
    else
      let next : List (List (Token UInt8) × β) := match mostFrequent? (firstOctets longer) with
        | some b => longer.filter fun (tokens, _) => startsWith b tokens
        | none => longer
      leader? fuel (next.map fun (tokens, value) => (tokens.tail, value))

/-- The pattern that a message names as clashing with `tokens`: among the patterns that clash, the
leader of what follows the common start. -/
def clashing? (tokens : List (Token Char)) (patterns : List Pattern) : Option Pattern :=
  let clashes := patterns.filter fun p => Token.clash tokens p.tokens
  let rests := clashes.map fun p =>
    (Token.afterCommon (Token.toOctets tokens) (Token.toOctets p.tokens), p)
  let fuel := total (rests.map fun r => r.1.length) + 1
  leader? fuel rests

/-- Puts the endpoints of one pattern together. -/
def mergeEndpoints (path : List Char) (e other : Endpoints α) : Except RouteClash (Endpoints α) :=
  match e.overlap? other with
  | some verb => .error (.verb verb path)
  | none =>
    if e.any.isSome && other.any.isSome then .error .anyMethod
    else .ok { verbs := e.verbs ++ other.verbs, any := e.any.or other.any }

/-- Adds endpoints to the route of a pattern that a list of routes has. -/
def addTo (pattern : Pattern) (endpoints : Endpoints α) :
    List (Route α) → Except RouteClash (List (Route α))
  | [] => .ok []
  | r :: rest =>
    if r.pattern.text = pattern.text then
      (mergeEndpoints pattern.text r.endpoints endpoints).map fun e =>
        { r with endpoints := e } :: rest
    else (addTo pattern endpoints rest).map (r :: ·)

/-- Whether the table has a route with the pattern. -/
def hasPattern (text : List Char) (t : Table α) : Bool := t.routes.any (·.pattern.text = text)

/-- Adds a route. -/
def insert (t : Table α) (r : Route α) : Except RouteClash (Table α) :=
  if t.hasPattern r.pattern.text then
    (addTo r.pattern r.endpoints t.routes).map fun routes => { t with routes }
  else match clashing? r.pattern.tokens (t.routes.map (·.pattern)) with
    | some other => .error (.pattern r.pattern.text other.shown)
    | none => .ok { t with routes := t.routes ++ [r] }

/-- Puts two tables together. -/
def merge (t other : Table α) : Except RouteClash (Table α) :=
  if t.fallback.isSome && other.fallback.isSome then .error .fallback
  else other.routes.foldlM insert { t with fallback := t.fallback.or other.fallback }

end Table

/-- What is written down to add an endpoint to a table. -/
structure RouteEntry (α : Type) where
  /-- The pattern; without one the endpoint answers paths without a pattern. -/
  path : Option (List Char)
  /-- The verb; without one the endpoint answers all other methods. -/
  verb : Option Verb
  /-- The endpoint. -/
  endpoint : α

/-- Adds an entry to a table, if its pattern is one and it goes together with the table. A later
entry without a pattern replaces an earlier one. -/
def Table.add? {α : Type} (t : Table α) (entry : RouteEntry α) : Option (Table α) :=
  match entry.path with
  | none => some { t with fallback := some entry.endpoint }
  | some path => do
    let pattern ← Pattern.parse? path
    let endpoints := match entry.verb with
      | some verb => .one verb entry.endpoint
      | none => .all entry.endpoint
    (t.insert ⟨pattern, endpoints⟩).toOption

/-- The table of a list of entries. -/
def Table.ofEntries? {α : Type} (entries : List (RouteEntry α)) : Option (Table α) :=
  entries.foldlM Table.add? {}

end ProtocolGateway

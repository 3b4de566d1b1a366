import ProtocolGateway.Text.Blank
import ProtocolGateway.Total

/-!
# Request URIs

The URI of a request: a path with a query, an absolute URI, a lone authority, or an asterisk.
Reading is strict about characters, but takes the path and the query as they are, without decoding
anything; a fragment is cut off.

## Main definitions

* `Uri.parse`: reads a URI.
* `Uri.path`, `Uri.query`: what routes look at.
* `Uri.render`: the text of a URI.
-/

namespace ProtocolGateway

/-- Why a text is no request URI. -/
inductive UriError where
  | empty
  | tooLong
  | schemeTooLong
  | character
  /-- An authority is followed by a path without a scheme before it, or missing after a scheme. -/
  | format
  | authority
deriving DecidableEq, Repr

/-- The wording of a URI error. -/
def UriError.message : UriError → String
  | .empty => "empty string"
  | .tooLong => "uri too long"
  | .schemeTooLong => "scheme too long"
  | .character => "invalid uri character"
  | .format => "invalid format"
  | .authority => "invalid authority"

/-- The part of a URI after the authority. -/
structure UriTarget where
  /-- The path as it is written. -/
  path : List Char
  /-- What stands behind the question mark. -/
  query : Option (List Char)
deriving DecidableEq, Repr

namespace UriTarget

/-- Whether the character may stand in a path. Some that ought to be encoded are let through. -/
def isPathChar (c : Char) : Bool :=
  let n := c.toNat
  n == 0x21 || n == 0x22 || (0x24 ≤ n && n ≤ 0x3B) || n == 0x3D || (0x40 ≤ n && n ≤ 0x5F) ||
    (0x61 ≤ n && n != 0x7F)

/-- Whether the character may stand in a query. -/
def isQueryChar (c : Char) : Bool :=
  let n := c.toNat
  n == 0x21 || (0x24 ≤ n && n ≤ 0x3B) || n == 0x3D || (0x3F ≤ n && n != 0x7F)

/-- Whether the character ends a path. -/
def endsPath (c : Char) : Bool := c == '?' || c == '#'

/-- Reads a path with an optional query; a fragment after them is cut off. -/
def parse (text : List Char) : Except UriError UriTarget :=
  let path := text.takeWhile (!endsPath ·)
  if !path.all isPathChar then .error .character
  else match text.dropWhile (!endsPath ·) with
    | '?' :: rest =>
      let query := rest.takeWhile (· != '#')
      if query.all isQueryChar then .ok ⟨path, some query⟩ else .error .character
    | _ => .ok ⟨path, none⟩

/-- The text of a target. -/
def render (t : UriTarget) : List Char :=
  t.path ++ match t.query with
    | none => []
    | some query => '?' :: query

end UriTarget

/-- A request URI. -/
structure Uri where
  /-- The scheme of an absolute URI. -/
  scheme : Option (List Char)
  /-- Host and port, with what else stands there. -/
  authority : Option (List Char)
  /-- Path and query. -/
  target : UriTarget
deriving DecidableEq, Repr

namespace Uri

/-- How many octets a URI may have. -/
def maxSize : Nat := 65534

/-- How many characters a scheme may have. -/
def maxSchemeSize : Nat := 64

/-- Whether the character may stand in a scheme. -/
def isSchemeChar (c : Char) : Bool := c.isAlphanum || c == '+' || c == '-' || c == '.' || c == '~'

/-- Splits a scheme off. The schemes of the web are recognised in any case and written in lower
case; others keep their case and may even be empty. -/
def takeScheme (text : List Char) : Except UriError (Option (List Char) × List Char) :=
  let name := text.takeWhile isSchemeChar
  match text.dropWhile isSchemeChar with
  | ':' :: '/' :: '/' :: rest =>
    let lower := name.map Char.toLower
    if lower = "http".toList || lower = "https".toList then .ok (some lower, rest)
    else if name.isEmpty && rest.isEmpty then .ok (none, text)
    else if maxSchemeSize < name.length then .error .schemeTooLong
    else .ok (some name, rest)
  | _ => .ok (none, text)

/-- What is remembered of an authority while it is read. -/
structure AuthorityScan where
  /-- The colons since the last bracket or at sign. -/
  colons : Nat := 0
  /-- Whether a bracket was opened. -/
  opened : Bool := false
  /-- Whether a bracket was closed. -/
  closed : Bool := false
  /-- Whether there was a percent sign since the last bracket or at sign. -/
  percent : Bool := false

/-- Whether the character may stand in an authority without further conditions. -/
def isAuthorityChar (c : Char) : Bool :=
  c.isAlphanum || "!$&'()*+,-.;=_~".toList.contains c

/-- How many colons may follow each other in an authority: as many as in an address of eight groups
with a port. -/
def maxColons : Nat := 8

/-- Reads a character of an authority. -/
def AuthorityScan.step (s : AuthorityScan) (c : Char) : Except UriError AuthorityScan :=
  if c = ':' then
    if maxColons ≤ s.colons then .error .authority else .ok { s with colons := s.colons + 1 }
  else if c = '[' then
    if s.percent || s.opened then .error .authority else .ok { s with opened := true }
  else if c = ']' then
    if !s.opened || s.closed then .error .authority
    else .ok { s with closed := true, colons := 0, percent := false }
  else if c = '@' then .ok { s with colons := 0, percent := false }
  else if c = '%' then .ok { s with percent := true }
  else if isAuthorityChar c then .ok s
  else .error .character

/-- Whether a scan may end: brackets are balanced, there is at most one colon for a port, and no
percent sign in the host. -/
def AuthorityScan.isComplete (s : AuthorityScan) : Bool :=
  s.opened == s.closed && s.colons ≤ 1 && !s.percent

/-- Whether the character ends an authority. -/
def endsAuthority (c : Char) : Bool := c == '/' || c == '?' || c == '#'

/-- Splits an authority off, which may be empty. -/
def takeAuthority (text : List Char) : Except UriError (List Char × List Char) :=
  let authority := text.takeWhile (!endsAuthority ·)
  match authority.foldlM AuthorityScan.step {} with
  | .error e => .error e
  | .ok s =>
    if s.isComplete && authority.getLast? ≠ some '@' then
      .ok (authority, text.dropWhile (!endsAuthority ·))
    else .error .authority

/-- How many octets a text has. -/
def size (text : List Char) : Nat := total (text.map Char.utf8Size)

/-- A URI without scheme and authority. -/
def ofTarget (target : UriTarget) : Uri := ⟨none, none, target⟩

/-- Reads a URI that does not start with a slash. -/
def parseFull (text : List Char) : Except UriError Uri := do
  let (scheme, rest) ← takeScheme text
  let (authority, rest) ← takeAuthority rest
  if scheme.isNone then
    if rest.isEmpty then return ⟨none, some authority, ⟨[], none⟩⟩
    else throw (if text.length = 1 then .character else .format)
  else if authority.isEmpty then throw .format
  else return ⟨scheme, some authority, ← UriTarget.parse rest⟩

/-- Reads a URI. -/
def parse (text : List Char) : Except UriError Uri :=
  if maxSize < size text then .error .tooLong
  else match text with
    | [] => .error .empty
    | ['*'] => .ok (ofTarget ⟨['*'], none⟩)
    | '/' :: _ => (UriTarget.parse text).map ofTarget
    | _ => parseFull text

/-- The path. A missing path is a slash, except after a lone authority. -/
def path (u : Uri) : List Char :=
  if !u.target.path.isEmpty then u.target.path
  else if u.scheme.isSome || u.target.query.isSome then ['/']
  else []

/-- The query. -/
def query (u : Uri) : Option (List Char) := u.target.query

/-- The text of a URI. -/
def render (u : Uri) : List Char :=
  (match u.scheme with
    | none => []
    | some scheme => scheme ++ "://".toList) ++
  u.authority.getD [] ++ UriTarget.render ⟨u.path, u.query⟩

end Uri

end ProtocolGateway

import ProtocolGateway.Text.Blank
import ProtocolGateway.Text.Decimal
import ProtocolGateway.Text.Utf8
import ProtocolGateway.Total
import ProtocolGateway.Url.DomainName

/-!
# URLs

The absolute URL a log collector is reached at. Reading follows the rules of the living standard on
URLs: white space around the text and line breaks within it do not count, the schemes of the web
have an authority and a host that is checked, dot segments of the path are resolved, and characters
out of place are percent-encoded.

## Main definitions

* `Url.parse`: reads an absolute URL.
* `Url.render`: its normal form.
-/

namespace ProtocolGateway

/-- Why a text is no absolute URL. -/
inductive UrlError where
  | relativeWithoutBase
  | emptyHost
  | invalidPort
  | invalidDomainName
  | invalidIpv4
  | invalidIpv6
  | invalidDomainCharacter
deriving DecidableEq, Repr

/-- The wording of a URL error. -/
def UrlError.message : UrlError → String
  | .relativeWithoutBase => "relative URL without a base"
  | .emptyHost => "empty host"
  | .invalidPort => "invalid port number"
  | .invalidDomainName => "invalid international domain name"
  | .invalidIpv4 => "invalid IPv4 address"
  | .invalidIpv6 => "invalid IPv6 address"
  | .invalidDomainCharacter => "invalid domain character"

/-- The host of a URL. -/
inductive UrlHost where
  /-- A name, in ASCII for the schemes of the web. -/
  | name (text : List Char)
  /-- An IPv4 address as one number. -/
  | v4 (address : Nat)
  /-- The eight groups of an IPv6 address. -/
  | v6 (groups : List Nat)
deriving DecidableEq, Repr

/-- An absolute URL in its parts. -/
structure Url where
  /-- The scheme in lower case. -/
  scheme : List Char
  /-- The user name and password before the host, with their separator. -/
  userInfo : List Char := []
  /-- The host, if there is an authority. -/
  host : Option UrlHost := none
  /-- The port, unless it is the usual one of the scheme. -/
  port : Option Nat := none
  /-- The path with its leading slash, if it has one. -/
  path : List Char
  /-- The text after the question mark. -/
  query : Option (List Char) := none
  /-- The text after the number sign. -/
  fragment : Option (List Char) := none
deriving DecidableEq, Repr

namespace Url

/-! ### Percent-encoding -/

/-- The upper-case hexadecimal digit of a number below sixteen. -/
def hexDigit (n : Nat) : Char :=
  if n < 10 then Char.ofNat (48 + n) else Char.ofNat (55 + n)

/-- Writes the characters that `reserved` names, and all outside printable ASCII, as percent signs
with two digits for each octet. -/
def percentEncode (reserved : List Char) (text : List Char) : List Char :=
  text.flatMap fun c =>
    if c.toNat < 0x20 || 0x7E < c.toNat || reserved.contains c then
      (Utf8.encode [c]).flatMap fun b => ['%', hexDigit (b.toNat / 16), hexDigit (b.toNat % 16)]
    else [c]

/-- The octets of a text in which `%` and two digits stand for one octet. -/
def percentDecode : List Char → Bytes
  | [] => []
  | '%' :: a :: b :: rest =>
    match Decimal.digit? 16 a, Decimal.digit? 16 b with
    | some x, some y => UInt8.ofNat (x * 16 + y) :: percentDecode rest
    | _, _ => 0x25 :: percentDecode (a :: b :: rest)
  | c :: rest => Utf8.encode [c] ++ percentDecode rest

/-- The characters escaped in a fragment. -/
def fragmentReserved : List Char := [' ', '"', '<', '>', '\x60']

/-- The characters escaped in a path. -/
def pathReserved : List Char := fragmentReserved ++ ['#', '?', '\x7b', '\x7d']

/-- The characters escaped in a user name or password. -/
def userInfoReserved : List Char :=
  pathReserved ++ ['/', ':', ';', '=', '@', '[', '\\', ']', '^', '|']

/-- The characters escaped in a query; the apostrophe only for the schemes of the web. -/
def queryReserved (web : Bool) : List Char :=
  [' ', '"', '#', '<', '>'] ++ if web then ['\''] else []

/-! ### Hosts -/

/-- Reads one number of an IPv4 address: `none` if the text is no number at all. Hexadecimal after
`0x`, octal after `0`, and the bare marks count as zero. -/
def v4Number? (text : List Char) : Option Nat :=
  let number (base : Nat) (digits : List Char) : Option Nat :=
    if digits.isEmpty then some 0 else Decimal.ofDigits? base digits
  match text with
  | [] => none
  | '0' :: 'x' :: digits => number 16 digits
  | '0' :: 'X' :: digits => number 16 digits
  | '0' :: d :: digits => number 8 (d :: digits)
  | _ => number 10 text

/-- The labels of a name without an empty one at its end. -/
def nonEmptyEnd (name : List Char) : List (List Char) :=
  let labels := DomainName.labels name
  if labels.getLast? = some [] then labels.dropLast else labels

/-- Whether the last label of a name is a number, which makes the name an IPv4 address. -/
def endsInNumber (name : List Char) : Bool :=
  match (nonEmptyEnd name).getLast? with
  | none => false
  | some last => (!last.isEmpty && last.all Decimal.isDigit) || (v4Number? last).isSome

/-- The IPv4 address a name denotes: up to four numbers, the last of which fills all octets the
others leave. -/
def v4OfName? (name : List Char) : Option Nat := do
  let labels := nonEmptyEnd name
  if 4 < labels.length then none
  else
    let numbers ← labels.mapM v4Number?
    let last ← numbers.getLast?
    let front := numbers.dropLast
    if front.all (· ≤ 255) && last < Nat.pow 256 (4 - front.length) then
      return total (front.zipIdx.map fun (n, i) => n * Nat.pow 256 (3 - i)) + last
    else none

/-- Reads the groups of an IPv6 address, given how many are still missing. The result is the groups
before the run of zeros, and those after it if there is one. -/
def v6Groups? : Nat → Bool → List Char → Option (List Nat)
  | left, first, text =>
    let group? (t : List Char) : Option (Nat × List Char) :=
      let digits := (t.take 4).takeWhile fun c => (Decimal.digit? 16 c).isSome
      if digits.isEmpty then none else some (Decimal.valueFrom 16 0 digits, t.drop digits.length)
    let octets? (t : List Char) : Option (List Nat) := do
      let parts := Text.splitOn '.' t
      let values ← parts.mapM fun p =>
        if p.length > 1 && p.head? == some '0' then none
        else (Decimal.ofDigits? 10 p).filter (· ≤ 255)
      match values with
      | [a, b, c, d] => return [a * 256 + b, c * 256 + d]
      | _ => none
    match left, text with
    | _, [] => if first then some [] else none
    | 0, _ :: _ => none
    | left + 1, _ =>
      if text.contains '.' && !text.contains ':' then
        if 1 ≤ left then octets? text else none
      else do
        let (g, rest) ← group? text
        match rest with
        | [] => return [g]
        | ':' :: rest => return g :: (← v6Groups? left false rest)
        | _ => none

/-- Reads an IPv6 address. -/
def v6? (text : List Char) : Option (List Nat) :=
  let compressed (front back : List Char) : Option (List Nat) := do
    let before ← if front.isEmpty then some [] else v6Groups? 7 true front
    let after ← if back.isEmpty then some [] else v6Groups? 7 true back
    let zeros := 8 - before.length - after.length
    if front.contains '.' || zeros = 0 then none
    else return before ++ List.replicate zeros 0 ++ after
  let rec split (before : List Char) : List Char → Option (List Nat)
    | [] => (v6Groups? 8 true text).filter (·.length = 8)
    | ':' :: ':' :: after => compressed before.reverse after
    | c :: rest => split (c :: before) rest
  split [] text

/-- The host of a scheme of the web. -/
def webHost (text : List Char) : Except UrlError UrlHost :=
  match text with
  | '[' :: rest =>
    if rest.getLast? = some ']' then
      match v6? rest.dropLast with
      | some groups => .ok (.v6 groups)
      | none => .error .invalidIpv6
    else .error .invalidIpv6
  | _ =>
    match (Utf8.decode? (percentDecode text)).bind DomainName.toAscii? with
    | none => .error .invalidDomainName
    | some name =>
      if name.isEmpty then .error .emptyHost
      else if endsInNumber name then
        match v4OfName? name with
        | some address => .ok (.v4 address)
        | none => .error .invalidIpv4
      else .ok (.name name)

/-- The host of any other scheme, which is kept as it is written. -/
def opaqueHost (text : List Char) : Except UrlError UrlHost :=
  match text with
  | '[' :: _ => webHost text
  | _ =>
    if text.any (fun c => c != '%' && c.toNat < 0x80 && 0x20 < c.toNat && c.toNat != 0x7F &&
        DomainName.isForbidden c.toNat || c == ' ' || c == '\x00') then
      .error .invalidDomainCharacter
    else .ok (.name (percentEncode [] text))

/-! ### The parts of a URL -/

/-- The schemes of the web with their usual ports. -/
def webPort? (scheme : List Char) : Option Nat :=
  if scheme = "http".toList || scheme = "ws".toList then some 80
  else if scheme = "https".toList || scheme = "wss".toList then some 443
  else if scheme = "ftp".toList then some 21
  else none

/-- Whether the character may stand in a scheme after its first letter. -/
def isSchemeChar (c : Char) : Bool := c.isAlphanum || c == '+' || c == '-' || c == '.'

/-- The scheme before the first colon, and what follows the colon. -/
def takeScheme? (text : List Char) : Option (List Char × List Char) :=
  match text with
  | [] => none
  | c :: _ =>
    if c.isAlpha then
      match text.dropWhile isSchemeChar with
      | ':' :: rest => some ((text.takeWhile isSchemeChar).map Char.toLower, rest)
      | _ => none
    else none

/-- Whether the character ends an authority. -/
def endsAuthority (web : Bool) (c : Char) : Bool :=
  c == '/' || c == '?' || c == '#' || (web && c == '\\')

/-- The host and what follows it in an authority: a colon inside brackets does not end a host. -/
def takeHost (text : List Char) : List Char × List Char :=
  let rec go (inside : Bool) (host : List Char) : List Char → List Char × List Char
    | [] => (host.reverse, [])
    | c :: rest =>
      if c = ':' && !inside then (host.reverse, c :: rest)
      else go (if c = '[' then true else if c = ']' then false else inside) (c :: host) rest
  go false [] text

/-- The port after the host. -/
def portOf (scheme : List Char) (text : List Char) : Except UrlError (Option Nat) :=
  match text with
  | ':' :: digits =>
    if digits.isEmpty then .ok none
    else match Decimal.ofDigits? 10 digits with
      | none => .error .invalidPort
      | some n =>
        if 0xFFFF < n then .error .invalidPort
        else .ok (if webPort? scheme = some n then none else some n)
  | _ => .ok none

/-- The segments of a path that stand for the directory itself and for the one above it. -/
def isDot (segment : List Char) : Bool :=
  let s := String.ofList (segment.map Char.toLower)
  s = "." || s = "%2e"

/-- A segment that stands for the directory above. -/
def isDotDot (segment : List Char) : Bool :=
  let s := String.ofList (segment.map Char.toLower)
  s = ".." || s = ".%2e" || s = "%2e." || s = "%2e%2e"

/-- Resolves the dot segments, given those kept so far in reverse. A dot segment at the end leaves
the path of a directory. -/
def resolve (kept : List (List Char)) : List (List Char) → List (List Char)
  | [] => kept.reverse
  | [s] =>
    if isDotDot s then ([] :: kept.drop 1).reverse
    else if isDot s then ([] :: kept).reverse
    else (s :: kept).reverse
  | s :: rest =>
    if isDotDot s then resolve (kept.drop 1) rest
    else if isDot s then resolve kept rest
    else resolve (s :: kept) rest

/-- The path with resolved segments; `text` follows its leading slash. -/
def pathOf (web : Bool) (text : List Char) : List Char :=
  let text := if web then text.map (fun c => if c = '\\' then '/' else c) else text
  (resolve [] (Text.splitOn '/' text)).flatMap fun s => '/' :: percentEncode pathReserved s

/-- Cuts a text at the first character of the list: what stands before it, and from it on. -/
def cutAt (stops : List Char) (text : List Char) : List Char × List Char :=
  (text.takeWhile (!stops.contains ·), text.dropWhile (!stops.contains ·))

/-- The query and the fragment after a path. -/
def queryAndFragment (web : Bool) (text : List Char) : Option (List Char) × Option (List Char) :=
  let (front, mark) := cutAt ['#'] text
  let fragment := match mark with
    | _ :: f => some (percentEncode fragmentReserved f)
    | [] => none
  let query := match front with
    | '?' :: q => some (percentEncode (queryReserved web) q)
    | _ => none
  (query, fragment)

/-- The user name and password before the last `@` of an authority, and the rest of it. -/
def takeUserInfo (authority : List Char) : Option (List Char) × List Char :=
  if authority.contains '@' then
    let back := authority.reverse
    (some ((back.dropWhile (· != '@')).drop 1).reverse, (back.takeWhile (· != '@')).reverse)
  else (none, authority)

/-- User name and password in normal form, with the `@` after them. -/
def renderUserInfo (text : List Char) : List Char :=
  let (user, password) := cutAt [':'] text
  let encode := percentEncode userInfoReserved
  match password.drop 1 with
  | [] => if user.isEmpty then [] else encode user ++ ['@']
  | p => encode user ++ ':' :: encode p ++ ['@']

/-- Reads what follows the two slashes after a scheme. -/
def ofAuthority (scheme : List Char) (web : Bool) (text : List Char) : Except UrlError Url := do
  let authority := text.takeWhile (!endsAuthority web ·)
  let rest := text.dropWhile (!endsAuthority web ·)
  let (userInfo, hostAndPort) := takeUserInfo authority
  let (hostText, portText) := takeHost hostAndPort
  if hostText.isEmpty && (web || userInfo.isSome || !portText.isEmpty) then throw .emptyHost
  let host ← if web then webHost hostText else opaqueHost hostText
  let port ← portOf scheme portText
  let (pathText, tail) := cutAt ['?', '#'] rest
  let path := match pathText with
    | [] => if web then ['/'] else []
    | _ :: p => pathOf web p
  let (query, fragment) := queryAndFragment web tail
  return {
    scheme, userInfo := renderUserInfo (userInfo.getD []), host := some host, port, path, query,
    fragment }

/-- Reads what follows the scheme `file`, whose host may be missing. -/
def ofFile (scheme : List Char) (text : List Char) : Except UrlError Url := do
  let isSlash (c : Char) : Bool := c == '/' || c == '\\'
  let (hostText, rest) := match text with
    | a :: b :: rest =>
      if isSlash a && isSlash b then
        (rest.takeWhile (!endsAuthority true ·), rest.dropWhile (!endsAuthority true ·))
      else ([], text)
    | _ => ([], text)
  let host ← if hostText.isEmpty then pure (.name []) else webHost hostText
  let (pathText, tail) := cutAt ['?', '#'] rest
  let path := pathOf true (match pathText with
    | c :: p => if isSlash c then p else pathText
    | [] => [])
  let (query, fragment) := queryAndFragment true tail
  return { scheme, host := some host, path, query, fragment }

/-- Reads an absolute URL. -/
def parse (text : List Char) : Except UrlError Url :=
  let outer (c : Char) : Bool := c.toNat ≤ 0x20
  let trimmed := ((text.dropWhile outer).reverse.dropWhile outer).reverse
  let clean := trimmed.filter fun c => c != '\t' && c != '\n' && c != '\r'
  match takeScheme? clean with
  | none => .error .relativeWithoutBase
  | some (scheme, rest) =>
    if (webPort? scheme).isSome then
      ofAuthority scheme true (rest.dropWhile fun c => c == '/' || c == '\\')
    else if scheme = "file".toList then ofFile scheme rest
    else match rest with
      | '/' :: '/' :: authority => ofAuthority scheme false authority
      | _ =>
        let (pathText, tail) := cutAt ['?', '#'] rest
        let path := match pathText with
          | '/' :: p => pathOf false p
          | p => percentEncode [] p
        let (query, fragment) := queryAndFragment false tail
        .ok { scheme, path, query, fragment }

/-! ### The normal form -/

/-- An IPv4 address as four octets. -/
def renderV4 (address : Nat) : String :=
  s!"{address / 16777216 % 256}.{address / 65536 % 256}.{address / 256 % 256}.{address % 256}"

/-- The longest run of at least two zero groups: where it starts and how long it is. -/
def zeroRun (groups : List Nat) : Option (Nat × Nat) :=
  let runs := (List.range groups.length).map fun i =>
    (i, ((groups.drop i).takeWhile (· == 0)).length)
  runs.foldl (fun best run =>
    if run.2 < 2 then best
    else match best with
      | none => some run
      | some b => if b.2 < run.2 then some run else best) none

/-- An IPv6 address in brackets, with the longest run of zero groups left out. -/
def renderV6 (groups : List Nat) : List Char :=
  let hex (l : List Nat) : List Char := ((l.map (Nat.toDigits 16)).intersperse [':']).flatten
  let body := match zeroRun groups with
    | none => hex groups
    | some (i, n) => hex (groups.take i) ++ [':', ':'] ++ hex (groups.drop (i + n))
  '[' :: body ++ [']']

/-- The host as it stands in the normal form. -/
def renderHost : UrlHost → List Char
  | .name text => text
  | .v4 address => (renderV4 address).toList
  | .v6 groups => renderV6 groups

/-- The normal form. -/
def render (u : Url) : List Char :=
  let authority := match u.host with
    | none => []
    | some h =>
      ['/', '/'] ++ u.userInfo ++ renderHost h ++
        (match u.port with | none => [] | some p => ':' :: (toString p).toList)
  let query := match u.query with | none => [] | some q => '?' :: q
  let fragment := match u.fragment with | none => [] | some f => '#' :: f
  u.scheme ++ ':' :: authority ++ u.path ++ query ++ fragment

example : (parse "HTTP://u@H:80/a/../b c?x".toList).toOption.map (String.ofList ·.render) =
    some "http://u@h/b%20c?x" := by decide +kernel

/-- Whether the URL is of a scheme that log lines can be posted to. -/
def isHttp (u : Url) : Bool := u.scheme = "http".toList || u.scheme = "https".toList

end Url

end ProtocolGateway

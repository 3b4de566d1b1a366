import ProtocolGateway.Route.Pattern
import ProtocolGateway.Url

/-!
# What patterns capture

A segment or a rest of a path that a pattern gives a name to is captured. Its text is read with `%`
and two digits for an octet, and if the octets are no text, only the name of the first such piece is
kept. A path that goes through several patterns on its way, one after the other, is captured by each
of them, and what the later ones capture is added at the end.

## Main definitions

* `Pattern.captured`: the pieces of a path that a pattern gives names to.
* `Captures`: what has been captured so far.
-/

namespace ProtocolGateway

/-- The pieces of a path with the names that the pieces of a pattern give them. -/
def Token.captured : List (Token Char) → List Char → List (List Char × List Char)
  | [], _ => []
  | .literal _ :: tokens, path => captured tokens (path.drop 1)
  | .segment name :: tokens, path =>
    (name, path.takeWhile (· != '/')) :: captured tokens (path.dropWhile (· != '/'))
  | .rest name :: _, path => [(name, path)]

/-- The pieces of a path that the pattern with a text gives names to. -/
def Pattern.captured (text path : List Char) : List (List Char × List Char) :=
  Token.captured ((Pattern.tokens? text).getD []) path

/-- What the patterns have captured of a path. -/
inductive Captures where
  /-- Names with texts. -/
  | texts (entries : List (List Char × List Char))
  /-- The octets with this name are no text. -/
  | notText (name : List Char)
deriving DecidableEq, Repr

namespace Captures

/-- Reads captured pieces, up to the first that is no text. -/
def read : List (List Char × List Char) → Captures
  | [] => .texts []
  | (name, piece) :: pieces =>
    match Utf8.decode? (Url.percentDecode piece) with
    | none => .notText name
    | some text =>
      match read pieces with
      | .texts entries => .texts ((name, text) :: entries)
      | .notText other => .notText other

/-- What has been captured by one pattern after another. -/
def append : Captures → Captures → Captures
  | .texts entries, .texts more => .texts (entries ++ more)
  | .texts _, .notText name => .notText name
  | .notText name, _ => .notText name

instance : Append Captures := ⟨append⟩

/-- What the pattern that was found for a path captures of it. -/
def ofRoute (pattern : Option (List Char)) (path : List Char) : Captures :=
  match pattern with
  | none => .texts []
  | some text => read (Pattern.captured text path)

end Captures

end ProtocolGateway

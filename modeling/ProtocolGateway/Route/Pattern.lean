import ProtocolGateway.Text.Blank

/-!
# Route patterns

A pattern is a path in which `\x7bname\x7d` stands for a non-empty segment, or for the non-empty end
of a segment, and `\x7b*name\x7d` at the end stands for a non-empty rest. Doubled braces stand for
themselves.

## Main definitions

* `Pattern.parse?`: reads a pattern.
* `Token.matchesPath`: whether a path has the form of a pattern.
* `Token.clash`: whether two patterns cannot stand in one table.
* `Token.preferred`: which of two patterns a path belongs to that has the form of both.
-/

namespace ProtocolGateway

/-- A piece of a pattern over an alphabet of characters or octets. -/
inductive Token (α : Type) where
  /-- Stands for itself. -/
  | literal (a : α)
  /-- Stands for a non-empty end of a segment. -/
  | segment (name : List Char)
  /-- Stands for a non-empty rest of the path. -/
  | rest (name : List Char)
deriving DecidableEq, Repr

namespace Token

/-- Whether the path has the form of the pattern. -/
def matchesPath : List (Token Char) → List Char → Bool
  | [], path => path.isEmpty
  | .literal _ :: _, [] => false
  | .literal c :: tokens, d :: path => c == d && matchesPath tokens path
  | .segment _ :: tokens, path =>
    !(path.takeWhile (· != '/')).isEmpty && matchesPath tokens (path.dropWhile (· != '/'))
  | .rest _ :: _, path => !path.isEmpty

/-- Whether two patterns cannot be told apart: they have the same form, or a segment or rest stands
where the other one has a rest. -/
def clash {α : Type} [DecidableEq α] : List (Token α) → List (Token α) → Bool
  | [], [] => true
  | .literal a :: p, .literal b :: q => a = b && clash p q
  | .segment _ :: p, .segment _ :: q => clash p q
  | .segment _ :: _, .rest _ :: _ => true
  | .rest _ :: _, .segment _ :: _ => true
  | .rest _ :: _, .rest _ :: _ => true
  | _, _ => false

/-- Whether the first of two patterns goes before the second: where they differ first, it has a
literal. -/
def preferred {α : Type} [DecidableEq α] : List (Token α) → List (Token α) → Bool
  | .literal a :: p, .literal b :: q => a = b && preferred p q
  | .literal _ :: _, _ :: _ => true
  | .segment _ :: p, .segment _ :: q => preferred p q
  | _, _ => false

end Token

namespace Pattern

/-- The characters of a pattern, with a mark at those that stand for themselves because they are
doubled braces. -/
def unescape : List Char → List (Char × Bool)
  | [] => []
  | [c] => [(c, false)]
  | c :: d :: rest =>
    if (c = '\x7b' ∧ d = '\x7b') ∨ (c = '\x7d' ∧ d = '\x7d') then (c, true) :: unescape rest
    else (c, false) :: unescape (d :: rest)

/-- Reads the pieces of a pattern; `name` is what has been read of a name between braces. The name
of a segment ends a segment, and the name of a rest, which starts with an asterisk, ends the
pattern. -/
def readTokens : Option (List Char) → List (Char × Bool) → Option (List (Token Char))
  | none, [] => some []
  | some _, [] => none
  | none, (c, marked) :: more =>
    if c = '\x7d' && !marked then none
    else if c = '\x7b' && !marked then readTokens (some []) more
    else (readTokens none more).map (.literal c :: ·)
  | some [], (c, _) :: more => if c = '\x7d' then none else readTokens (some [c]) more
  | some (first :: name), (c, marked) :: more =>
    if c = '\x7d' && !marked then
      if first = '*' then
        if name.isEmpty || !more.isEmpty then none else some [.rest name]
      else if more.isEmpty || (more.head?.map (·.1)) = some '/' then
        (readTokens none more).map (.segment (first :: name) :: ·)
      else none
    else if c = '*' || c = '/' then none
    else readTokens (some (first :: name ++ [c])) more

/-- How many segments a pattern may name. -/
def maxSegments : Nat := 25

/-- Whether the text has the shape of a path whose segments do not start with a colon or an
asterisk. -/
def isPathLike (text : List Char) : Bool :=
  text.head? = some '/' &&
    (Text.splitOn '/' text).all fun s => s.head? ≠ some ':' && s.head? ≠ some '*'

/-- Whether a piece stands for a segment. -/
def isSegment : Token Char → Bool
  | .segment _ => true
  | _ => false

/-- The pieces of a text, if it is a pattern. -/
def tokens? (text : List Char) : Option (List (Token Char)) :=
  if isPathLike text then
    (readTokens none (unescape text)).filter (·.countP isSegment ≤ maxSegments)
  else none

end Pattern

/-- A pattern as it is written and in pieces. -/
structure Pattern where
  /-- The pattern as it is written. -/
  text : List Char
  /-- Its pieces. -/
  tokens : List (Token Char)
  /-- The pieces are those of the text. -/
  tokens_eq : Pattern.tokens? text = some tokens
deriving DecidableEq, Repr

namespace Pattern

/-- Reads a pattern. -/
def parse? (text : List Char) : Option Pattern :=
  match h : tokens? text with
  | none => none
  | some tokens => some ⟨text, tokens, h⟩

/-- Whether the path has the form of the pattern. -/
def matchesPath (p : Pattern) (path : List Char) : Bool := Token.matchesPath p.tokens path

/-- A piece with its name, as messages show it: doubled braces are shown once. -/
def tokenText : Token Char → List Char
  | .literal c => [c]
  | .segment name => '\x7b' :: name ++ ['\x7d']
  | .rest name => '\x7b' :: '*' :: name ++ ['\x7d']

/-- The pattern as messages show it. -/
def shown (p : Pattern) : List Char := p.tokens.flatMap tokenText

end Pattern

end ProtocolGateway

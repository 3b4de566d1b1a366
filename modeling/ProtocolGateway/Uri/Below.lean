import ProtocolGateway.Uri

/-!
# URIs below a path

Requests below a reserved path are answered by routes that do not know of it. They see the URI
without that path: `/grpc/foo?x=1` is `/foo?x=1` below `/grpc`, and `/grpc` itself is `/`. A path
that only shares its first characters, such as `/grpcx`, does not lie below `/grpc`.

## Main definitions

* `pathBelow?`: what is left of a path.
* `Uri.below?`: what is left of a URI.
-/

namespace ProtocolGateway

/-- What is left of a path below another one: nothing left is a slash. -/
def pathBelow? (above path : List Char) : Option (List Char) :=
  match Text.dropStart? above path with
  | none => none
  | some [] => some ['/']
  | some (c :: rest) => if c = '/' then some (c :: rest) else none

example : pathBelow? "/grpc".toList "/grpc/foo".toList = some "/foo".toList := by decide +kernel

example : pathBelow? "/grpc".toList "/grpcx".toList = none := by decide +kernel

namespace Uri

/-- The URI with another path and the same query. It is put together from its parts again, which
fails if the parts do not fit: a path needs a scheme if there is an authority. -/
def withPath? (path : List Char) (u : Uri) : Option Uri :=
  match UriTarget.parse (UriTarget.render ⟨path, u.query⟩) with
  | .error _ => none
  | .ok target =>
    if u.scheme.isNone && u.authority.isSome then none
    else some { u with target }

/-- The URI below a path. -/
def below? (above : List Char) (u : Uri) : Option Uri :=
  (pathBelow? above u.path).bind (u.withPath? ·)

end Uri

end ProtocolGateway

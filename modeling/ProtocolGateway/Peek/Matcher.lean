import ProtocolGateway.Text.Blank
import ProtocolGateway.Text.Utf8

/-!
# Matchers

Which protocol a connection speaks is decided by its first bytes. A matcher says of the bytes read
so far that they are of its protocol, that they are not, or that more are needed. Of several
matchers the first one that does not say no decides: if it matches, the connection is its own, and
if it needs more bytes, later ones have to wait even if they already match.

## Main definitions

* `Matcher`: a protocol with its test, and the matchers that are built in.
* `classify`: the decision of an ordered list of matchers.
-/

namespace ProtocolGateway

/-- What the bytes read so far say about one protocol. -/
inductive MatchOutcome where
  | matched
  | noMatch
  /-- Undecided until more bytes arrive. -/
  | needMore
deriving DecidableEq, Repr

/-- A protocol with the test of its first bytes. -/
structure Matcher where
  /-- The label of the protocol in metrics. -/
  name : String
  /-- What the bytes read so far say. -/
  inspect : Bytes → MatchOutcome

namespace Matcher

/-- Matches the data that start with one of the openings. -/
def inspectOpenings (openings : List Bytes) (data : Bytes) : MatchOutcome :=
  if openings.any (·.isPrefixOf data) then .matched
  else if openings.any (data.isPrefixOf ·) then .needMore
  else .noMatch

/-- The methods of an HTTP/1 request line with the space after them. -/
def http1Openings : List Bytes :=
  ["GET ", "POST ", "PUT ", "DELETE ", "HEAD ", "OPTIONS ", "PATCH ", "CONNECT ", "TRACE "].map
    bytesOf

/-- The bytes that open an HTTP/2 connection. -/
def http2Preface : Bytes := bytesOf "PRI * HTTP/2.0\r\n\r\nSM\r\n\r\n"

/-- Matches HTTP/1 by the method of its request line. -/
def http1 : Matcher := ⟨"http1", inspectOpenings http1Openings⟩

/-- Matches HTTP/2 by the preface of its connections. -/
def http2 : Matcher := ⟨"http2", inspectOpenings [http2Preface]⟩

/-- Matches every connection without a look at it. -/
def any : Matcher := ⟨"any", fun _ => .matched⟩

/-- Never knows enough. -/
def hungry : Matcher := ⟨"hungry", fun _ => .needMore⟩

/-- Matches nothing. -/
def never : Matcher := ⟨"never", fun _ => .noMatch⟩

/-- Matches the data that start with a literal. -/
def literal (name : String) (opening : Bytes) : Matcher := ⟨name, inspectOpenings [opening]⟩

/-- The matchers of the gateway, in their order. -/
def registered : List Matcher := [http1, http2]

end Matcher

/-- The decision of a list of matchers. -/
inductive Verdict where
  /-- The matcher at this place wins. -/
  | matched (index : Nat)
  /-- No matcher can match any more. -/
  | rejected
  /-- More bytes are needed. -/
  | incomplete
deriving DecidableEq, Repr

/-- The verdict with the place of a winner counted from the next matcher before. -/
def Verdict.later : Verdict → Verdict
  | .matched index => .matched (index + 1)
  | v => v

/-- The verdict on the bytes read so far: the first matcher that does not say no decides. -/
def classify : List Matcher → Bytes → Verdict
  | [], _ => .rejected
  | m :: rest, data =>
    match m.inspect data with
    | .matched => .matched 0
    | .needMore => .incomplete
    | .noMatch => (classify rest data).later

/-- The verdicts as data arrive piece by piece, the first one before any data. -/
def verdicts (matchers : List Matcher) (seen : Bytes) : List Bytes → List Verdict
  | [] => [classify matchers seen]
  | piece :: pieces => classify matchers seen :: verdicts matchers (seen ++ piece) pieces

example : classify Matcher.registered (bytesOf "PRI * HT") = .incomplete := by decide +kernel

end ProtocolGateway

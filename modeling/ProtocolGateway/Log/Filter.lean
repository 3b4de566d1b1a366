import ProtocolGateway.Log.Level
import ProtocolGateway.Text.Alphanumeric
import ProtocolGateway.Text.Blank
import ProtocolGateway.Total

/-!
# Log filters

A filter is written as a list of directives with commas between them. A directive names a target,
optionally a span and fields, and a level; each part but the level may be missing:
`target[span{field=value}]=level`. An event is shown at the level of the most specific directive
whose target starts its own target and whose fields it carries.

A value that is no number and no truth value is a pattern. What a pattern is, is left open.

## Main definitions

* `Patterns`: which texts are patterns.
* `Directive.parse`: reads one directive.
* `Filter.parse`: reads a filter.
* `Filter.shows`: decides on an event outside of any span.
-/

namespace ProtocolGateway.Log

/-- The patterns for the values of fields. They are an instance, since all that reads a filter or
settings depends on them. -/
class Patterns where
  /-- What is wrong with a text that is no pattern. -/
  fault? : List Char → Option String

/-- The patterns of which every text is one. The program runs with them. -/
instance (priority := low) Patterns.lenient : Patterns := ⟨fun _ => none⟩

/-- Why a text is no filter. -/
inductive FilterError where
  /-- A directive does not have the form of one. -/
  | malformed
  /-- A level is neither a word nor a number of a level. -/
  | level
  /-- The value of a field is no pattern. -/
  | field (cause : String)
  /-- A part does not begin or end between two characters. There is no message then: the reader
  crashes. -/
  | crashed
deriving DecidableEq, Repr

/-- The wording of a filter error. -/
def FilterError.message : FilterError → String
  | .malformed => "invalid filter directive"
  | .level =>
    "error parsing level filter: expected one of \"off\", \"error\", \"warn\", \"info\", " ++
      "\"debug\", \"trace\", or a number 0-5"
  | .field cause => "invalid field filter: " ++ cause
  | .crashed => "crashed"

/-- A field a directive asks for. -/
structure FieldMatch where
  /-- The name of the field. -/
  name : List Char
  /-- Whether the field must also have a certain value. -/
  hasValue : Bool
deriving DecidableEq, Repr

/-- One directive of a filter. -/
structure Directive where
  /-- What is shown of the events it concerns. -/
  level : Verbosity := some .trace
  /-- How the target of such an event starts. -/
  target : Option (List Char) := none
  /-- The span such an event happens in. -/
  span : Option (List Char) := none
  /-- The fields such an event has. -/
  fields : List FieldMatch := []
deriving DecidableEq, Repr

namespace Directive

/-- The part of a directive that is being read, with the octet where it started. -/
inductive Part where
  | start
  | levelOrTarget (since : Nat)
  | span (since : Nat)
  | field (since : Nat)
  | afterFields
  | afterSpan
  | level (since : Nat)
deriving DecidableEq, Repr

/-- How many octets a text has. -/
def octets (text : List Char) : Nat := total (text.map Char.utf8Size)

/-- The characters after the first `n` octets, if one begins there. -/
def dropOctets? (n : Nat) : List Char → Option (List Char)
  | [] => if n = 0 then some [] else none
  | c :: text =>
    if n = 0 then some (c :: text)
    else if c.utf8Size ≤ n then dropOctets? (n - c.utf8Size) text else none

/-- The characters of the first `n` octets, if one ends there. -/
def takeOctets? (n : Nat) : List Char → Option (List Char)
  | [] => if n = 0 then some [] else none
  | c :: text =>
    if n = 0 then some []
    else if c.utf8Size ≤ n then (takeOctets? (n - c.utf8Size) text).map (c :: ·) else none

/-- The characters from octet `a` on. -/
def sliceFrom (text : List Char) (a : Nat) : Except FilterError (List Char) :=
  match dropOctets? a text with
  | none => .error .crashed
  | some rest => .ok rest

/-- The characters from octet `a` up to octet `b`. -/
def slice (text : List Char) (a b : Nat) : Except FilterError (List Char) :=
  match (dropOctets? a text).bind (takeOctets? (b - a)) with
  | none => .error .crashed
  | some part => .ok part

/-- Whether a value of a field stands for itself and is no pattern. -/
def isLiteral (value : List Char) : Bool :=
  value == "true".toList || value == "false".toList || Decimal.isFloat value

/-- A field of a directive: a name, and a value between an equals sign and the next one. -/
def fieldMatch [Patterns] (text : List Char) : Except FilterError FieldMatch :=
  match Text.splitOn '=' text with
  | name :: value :: _ =>
    if isLiteral value then .ok ⟨name, true⟩
    else match Patterns.fault? value with
      | none => .ok ⟨name, true⟩
      | some cause => .error (.field cause)
  | _ => .ok ⟨text, false⟩

/-- Whether a directive may start with the character, apart from the bracket of a span. -/
def startsName (c : Char) : Bool :=
  c == '-' || c == ':' || c == '_' || Text.isAlphanumeric c

/-- Reads the character `c` at octet `i` of a directive without its surrounding white space. The
names and levels are cut out of `whole`, which still has that white space. -/
def step [Patterns] (whole : List Char) (i : Nat) (c : Char) (part : Part) (d : Directive) :
    Except FilterError (Part × Directive) :=
  match part with
  | .start =>
    if c = '[' then .ok (.span (i + 1), d)
    else if startsName c then .ok (.levelOrTarget i, d)
    else .error .malformed
  | .levelOrTarget since =>
    if c = '=' then
      (slice whole since i).map fun name => (.level (i + 1), { d with target := some name })
    else if c = '[' then
      (slice whole since i).map fun name => (.span (i + 1), { d with target := some name })
    else .ok (part, d)
  | .afterSpan => if c = '=' then .ok (.level (i + 1), d) else .error .malformed
  | .span since =>
    if c = ']' then
      (slice whole since i).map fun name => (.afterSpan, { d with span := some name })
    else if c = '\x7b' then
      (slice whole since i).map fun name =>
        (.field (i + 1), { d with span := if name.isEmpty then none else some name })
    else .ok (part, d)
  | .field since =>
    if c = '\x7d' then
      match slice whole since i with
      | .error e => .error e
      | .ok [] => .error .malformed
      | .ok text => (fieldMatch text).map fun f =>
        (.afterFields, { d with fields := d.fields ++ [f] })
    else .ok (part, d)
  | .afterFields => if c = ']' then .ok (.afterSpan, d) else .error .malformed
  | .level _ => .ok (part, d)

/-- Ends a directive after its last character. A lone word is a level if it names one, and else a
target of which everything is shown. -/
def finish (whole : List Char) (part : Part) (d : Directive) : Except FilterError Directive :=
  match part with
  | .levelOrTarget since =>
    match sliceFrom whole since with
    | .error e => .error e
    | .ok [] => .ok { d with level := some .trace, target := none }
    | .ok word =>
      match Verbosity.parse? word with
      | some level => .ok { d with level, target := none }
      | none => .ok { d with level := some .trace, target := some word }
  | .level since =>
    match sliceFrom whole since with
    | .error e => .error e
    | .ok [] => .ok { d with level := some .trace }
    | .ok word =>
      match Verbosity.parse? word with
      | some level => .ok { d with level }
      | none => .error .level
  | .afterSpan => .ok d
  | _ => .error .malformed

/-- Reads the rest of a directive from octet `i` on. -/
def parseFrom [Patterns] (whole : List Char) :
    Nat → List Char → Part → Directive → Except FilterError Directive
  | _, [], part, d => finish whole part d
  | i, c :: rest, part, d =>
    match step whole i c part d with
    | .error e => .error e
    | .ok (part, d) => parseFrom whole (i + c.utf8Size) rest part d

/-- Reads one directive, which holds no comma. -/
def parse [Patterns] (text : List Char) : Except FilterError Directive :=
  parseFrom text 0 (Text.trim text) .start {}

/-- Whether the directive concerns events wherever they happen, and not only within a span or with
a certain value of a field. -/
def isStatic (d : Directive) : Bool := d.span.isNone && d.fields.all (!·.hasValue)

end Directive

/-- What is shown of the events with a target and with fields. -/
structure Rule where
  /-- How the target of such an event starts; any target if missing. -/
  target : Option (List Char)
  /-- The names of the fields such an event has. -/
  fields : List (List Char)
  /-- What is shown of them. -/
  level : Verbosity
deriving DecidableEq, Repr

/-- What is known of an event before it is formatted. -/
structure Metadata where
  /-- Its severity. -/
  level : Level
  /-- The part of the program it comes from. -/
  target : List Char
  /-- The names of its fields. -/
  fields : List (List Char) := []

namespace Rule

/-- The rule of a static directive. -/
def ofDirective (d : Directive) : Rule := ⟨d.target, d.fields.map (·.name), d.level⟩

/-- Whether two rules concern the same events. -/
def sameScope (r s : Rule) : Bool := r.target == s.target && r.fields == s.fields

/-- Compares two texts by their characters from the left. -/
def lexLess : List Char → List Char → Bool
  | [], [] => false
  | [], _ :: _ => true
  | _ :: _, [] => false
  | a :: as, b :: bs => a.toNat < b.toNat || (a == b && lexLess as bs)

/-- How many octets the target has; a missing target counts as shorter than the empty one. -/
def targetSize (r : Rule) : Nat :=
  match r.target with
  | none => 0
  | some t => Directive.octets t + 1

/-- Whether `r` is to be tried before `s`: it has a longer target, or else more fields, or else
comes later by name. -/
def moreSpecific (r s : Rule) : Bool :=
  if r.targetSize ≠ s.targetSize then s.targetSize < r.targetSize
  else if r.fields.length ≠ s.fields.length then s.fields.length < r.fields.length
  else if r.target ≠ s.target then lexLess (s.target.getD []) (r.target.getD [])
  else lexLess (s.fields.flatMap (· ++ [' '])) (r.fields.flatMap (· ++ [' ']))

/-- Whether the rule concerns the event. -/
def concerns (r : Rule) (event : Metadata) : Bool :=
  (match r.target with
    | none => true
    | some t => t.isPrefixOf event.target) &&
  r.fields.all event.fields.contains

end Rule

/-- A log filter: its rules, the most specific first. -/
structure Filter where
  /-- The rules in the order in which they are tried. -/
  rules : List Rule
deriving DecidableEq, Repr

namespace Filter

/-- Adds a rule at its place; it replaces an earlier one for the same events. -/
def insertRule (r : Rule) : List Rule → List Rule
  | [] => [r]
  | s :: rest =>
    if r.sameScope s then r :: rest
    else if r.moreSpecific s then r :: s :: rest
    else s :: insertRule r rest

/-- The filter with the given directives. Without any it shows nothing. A directive on spans
concerns no event outside of them. -/
def ofDirectives (directives : List Directive) : Filter :=
  if directives.isEmpty then ⟨[⟨none, [], none⟩]⟩
  else
    let static := directives.filter (·.isStatic)
    ⟨static.foldl (fun rules d => insertRule (.ofDirective d) rules) []⟩

/-- The directives of a filter text. Empty ones are left out. -/
def parts (text : List Char) : List (List Char) :=
  (Text.splitOn ',' text).filter (!·.isEmpty)

/-- Reads a filter. -/
def parse [Patterns] (text : List Char) : Except FilterError Filter :=
  (parts text).mapM Directive.parse |>.map ofDirectives

/-- Whether the filter shows an event that happens outside of any span. -/
def shows (f : Filter) (event : Metadata) : Bool :=
  match f.rules.find? (·.concerns event) with
  | none => false
  | some rule => rule.level.shows event.level

end Filter

end ProtocolGateway.Log

import ProtocolGateway.Toml.Scalar

/-!
# TOML documents

Values with their arrays and inline tables, and the tables of a document. A document is a list of
key-value lines under headers; this file reads it line by line into a tree of tables and refuses
keys that are defined twice.

## Main definitions

* `Entry`: a table under construction, which remembers how its tables came about.
* `parse?`: the table that a document denotes, or `none` if it is not well-formed.
-/

namespace ProtocolGateway.Toml

/-- A key without its dots. -/
abbrev Key := List Char

/-- What a key of a table under construction holds. -/
inductive Entry where
  /-- A value, which is complete. -/
  | leaf (v : Value)
  /-- A table that can still grow: `implicit` if no header names it, `dotted` if a dotted key
  created it. -/
  | table (implicit dotted : Bool) (items : List (Key × Entry))
  /-- The tables under double-bracketed headers; the last one can still grow. -/
  | tables (elements : List Entry)

mutual

/-- The value of a finished entry. -/
def Entry.toValue : Entry → Value
  | .leaf v => v
  | .table _ _ items => .table (Entry.toItems items)
  | .tables elements => .tables (Entry.toValues elements)

/-- The items of a finished table. -/
def Entry.toItems : List (Key × Entry) → List (Key × Value)
  | [] => []
  | (k, e) :: rest => (k, e.toValue) :: Entry.toItems rest

/-- The finished elements of an array of tables. -/
def Entry.toValues : List Entry → List Value
  | [] => []
  | e :: rest => e.toValue :: Entry.toValues rest

end

/-- What a key holds. -/
def lookup? (key : Key) (items : List (Key × Entry)) : Option Entry :=
  (items.find? (·.1 = key)).map (·.2)

/-- Gives a key a new content, at its place or, if it is new, at the end. -/
def put (key : Key) (entry : Entry) : List (Key × Entry) → List (Key × Entry)
  | [] => [(key, entry)]
  | (k, e) :: rest => if k = key then (k, entry) :: rest else (k, e) :: put key entry rest

/-- Puts a value under a dotted key: through tables that dotted keys created, or that headers only
passed through, down to one that a dotted key created. `within` tells whether part of the key has
been followed already, and `dotted` whether a dotted key created the table at hand. -/
def putDotted (within dotted : Bool) (path : List Key) (last : Key) (v : Value)
    (items : List (Key × Entry)) : Option (List (Key × Entry)) :=
  match path with
  | [] =>
    if within != dotted || (lookup? last items).isSome then none
    else some (put last (.leaf v) items)
  | key :: path =>
    match lookup? key items with
    | none => (putDotted true true path last v []).map fun inner =>
        put key (.table true true inner) items
    | some (.table implicit inDotted inner) =>
      if !implicit then none
      else (putDotted true inDotted path last v inner).map fun inner =>
        put key (.table implicit inDotted inner) items
    | some (.tables elements) =>
      match elements.getLast? with
      | some (.table implicit inDotted inner) =>
        (putDotted true inDotted path last v inner).map fun inner =>
          put key (.tables (elements.dropLast ++ [.table implicit inDotted inner])) items
      | _ => none
    | some (.leaf _) => none

/-- Applies an operation to the table that the keys of a header lead to, creating the tables on the
way. The operation gives a result beside the new items. -/
def atTable {β : Type} (path : List Key)
    (op : List (Key × Entry) → Option (β × List (Key × Entry))) (items : List (Key × Entry)) :
    Option (β × List (Key × Entry)) :=
  match path with
  | [] => op items
  | key :: path =>
    match lookup? key items with
    | none =>
      (atTable path op []).map fun (b, inner) => (b, put key (.table true false inner) items)
    | some (.table implicit dotted inner) =>
      (atTable path op inner).map fun (b, inner) =>
        (b, put key (.table implicit dotted inner) items)
    | some (.tables elements) =>
      match elements.getLast? with
      | some (.table implicit dotted inner) =>
        (atTable path op inner).map fun (b, inner) =>
          (b, put key (.tables (elements.dropLast ++ [.table implicit dotted inner])) items)
      | _ => none
    | some (.leaf _) => none

/-! ### Values -/

/-- The text after blanks, line breaks and comments. -/
def skipFiller : Nat → List Char → List Char
  | 0, text => text
  | fuel + 1, text =>
    match skipSpace text with
    | '#' :: rest => skipFiller fuel (skipComment ('#' :: rest))
    | '\n' :: rest => skipFiller fuel rest
    | '\r' :: '\n' :: rest => skipFiller fuel rest
    | rest => rest

/-- How many parts a key may have, and how deep arrays and inline tables may nest. -/
def depthLimit : Nat := 79

/-- Reads the key and the equals sign of a pair. -/
def pairKey? (text : List Char) : Option (List Key × List Char) := do
  let (path, rest) ← key? depthLimit text
  return (path, skipSpace (← after? '=' (skipSpace rest)))

mutual

/-- Reads a value in which arrays and inline tables nest at most `depth` deep. The fuel bounds the
number of characters that can still be read. -/
def value? : (fuel depth : Nat) → List Char → Option (Value × List Char)
  | 0, _, _ => none
  | fuel + 1, depth, text =>
    match text with
    | [] => none
    | '[' :: rest => if depth = 0 then none else items? fuel (depth - 1) [] rest
    | '\x7b' :: rest =>
      if depth = 0 then none
      else match skipSpace rest with
        | '\x7d' :: rest => some (.table [], rest)
        | rest => pairs? fuel (depth - 1) [] rest
    | 't' :: 'r' :: 'u' :: 'e' :: rest => some (.boolean true, rest)
    | 'f' :: 'a' :: 'l' :: 's' :: 'e' :: rest => some (.boolean false, rest)
    | c :: _ =>
      if c = '"' || c = '\'' then (string? text).map fun r => (.string r.1, r.2)
      else if c = '+' || c = '-' || c = 'i' || c = 'n' || Decimal.isDigit c then number? text
      else none

/-- Reads the items of an array, given those read so far in reverse. -/
def items? : (fuel depth : Nat) → List Value → List Char → Option (Value × List Char)
  | 0, _, _, _ => none
  | fuel + 1, depth, done, text =>
    match skipFiller (text.length + 1) text with
    | ']' :: rest => some (.array done.reverse, rest)
    | text =>
      match value? fuel depth text with
      | none => none
      | some (v, rest) =>
        match skipFiller (rest.length + 1) rest with
        | ',' :: rest => items? fuel depth (v :: done) rest
        | ']' :: rest => some (.array (v :: done).reverse, rest)
        | _ => none

/-- Reads the pairs of an inline table into the table made of those read so far. -/
def pairs? : (fuel depth : Nat) → List (Key × Entry) → List Char → Option (Value × List Char)
  | 0, _, _, _ => none
  | fuel + 1, depth, done, text =>
    match pairKey? text with
    | none => none
    | some (path, rest) =>
      match value? fuel depth rest with
      | none => none
      | some (v, rest) =>
        match putDotted false false path.dropLast (path.getLast?.getD []) v done with
        | none => none
        | some done =>
          match skipSpace rest with
          | ',' :: rest => pairs? fuel depth done rest
          | '\x7d' :: rest => some (.table (Entry.toItems done), rest)
          | _ => none

end

/-! ### Documents -/

/-- A document that has been read up to some line. -/
structure Draft where
  /-- The tables whose headers came before the current one. -/
  root : List (Key × Entry) := []
  /-- The keys of the current header; none before the first. -/
  path : List Key := []
  /-- Whether the current header has double brackets. -/
  inArray : Bool := false
  /-- The items of the current table. -/
  current : List (Key × Entry) := []

namespace Draft

/-- Puts the current table into its place. -/
def close (d : Draft) : Option (List (Key × Entry)) :=
  match d.path.getLast? with
  | none => some d.current
  | some last =>
    let finished : Entry := .table false false d.current
    let place (items : List (Key × Entry)) : Option (Unit × List (Key × Entry)) :=
      match d.inArray, lookup? last items with
      | true, none => some ((), put last (.tables [finished]) items)
      | true, some (.tables elements) =>
        some ((), put last (.tables (elements ++ [finished])) items)
      | true, some _ => none
      | false, none => some ((), put last finished items)
      | false, some _ => none
    (atTable d.path.dropLast place d.root).map (·.2)

/-- Opens the table with the given keys. A table that headers only passed through is taken out of
its place and put back at the end. -/
def openTable (path : List Key) (d : Draft) : Option Draft := do
  let last := path.getLast?.getD []
  let take (items : List (Key × Entry)) : Option (List (Key × Entry) × List (Key × Entry)) :=
    match lookup? last items with
    | none => some ([], items)
    | some (.table true false inner) => some (inner, items.filter (·.1 ≠ last))
    | some _ => none
  let (current, root) ← atTable path.dropLast take (← d.close)
  return { root, path, current }

/-- Opens a further table of the array with the given keys. -/
def openElement (path : List Key) (d : Draft) : Option Draft := do
  return { root := ← d.close, path, inArray := true }

end Draft

/-- Reads a header after its first bracket. -/
def header? (d : Draft) (text : List Char) : Option (Draft × List Char) :=
  match text with
  | '[' :: rest => do
    let (path, rest) ← key? depthLimit rest
    match rest with
    | ']' :: ']' :: rest => return (← d.openElement path, ← lineEnd? rest)
    | _ => none
  | _ => do
    let (path, rest) ← key? depthLimit text
    match rest with
    | ']' :: rest => return (← d.openTable path, ← lineEnd? rest)
    | _ => none

/-- Reads a key-value line. -/
def pair? (d : Draft) (text : List Char) : Option (Draft × List Char) := do
  let (path, rest) ← pairKey? text
  let (v, rest) ← value? (rest.length + 1) depthLimit rest
  let current ← putDotted false false path.dropLast (path.getLast?.getD []) v d.current
  return ({ d with current }, ← lineEnd? rest)

/-- Reads at most `fuel` lines. -/
def lines? : (fuel : Nat) → Draft → List Char → Option Draft
  | 0, _, _ => none
  | fuel + 1, d, text =>
    match skipSpace text with
    | [] => some d
    | '\n' :: rest => lines? fuel d rest
    | '\r' :: '\n' :: rest => lines? fuel d rest
    | '#' :: rest => (lineEnd? ('#' :: rest)).bind (lines? fuel d)
    | '[' :: rest => (header? d rest).bind fun (d, rest) => lines? fuel d rest
    | rest => (pair? d rest).bind fun (d, rest) => lines? fuel d rest

/-- Reads a document: the items of its outermost table. A byte order mark may precede it. -/
def parse? (text : List Char) : Option (List (Key × Value)) := do
  let text := match text with
    | '\uFEFF' :: rest => rest
    | _ => text
  let d ← lines? (text.length + 1) {} text
  return Entry.toItems (← d.close)

end ProtocolGateway.Toml

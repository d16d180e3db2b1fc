import ProxyFeed.Toml.Scalar

/-!
# TOML documents

Tables of keys and values, written line by line under headers.

## What is here

* `TomlTree` — a value: a scalar, an array, a table, or a list of tables made by double headers.
  A table remembers how it came about, since that decides what may still be added to it.
* `TomlTree.value?` — a value after an equals sign.
* `TomlTree.insert?` — adds a value under a dotted key; `TomlTree.open?` opens a header.
* `TomlTree.parse?` — the top-level table of a document.
-/

set_option autoImplicit false
namespace ProxyFeed

/-- How a table came about. -/
inductive TomlOrigin where
  /-- On the way to a table below it. -/
  | implied
  /-- By a header of its own. -/
  | header
  /-- By a dotted key. -/
  | dotted
deriving DecidableEq, Repr

/-- A value of a TOML document. -/
inductive TomlTree where
  | scalar (s : TomlScalar)
  /-- An array or a table in one piece, to which nothing can be added. -/
  | closed
  | table (origin : TomlOrigin) (entries : List (String × TomlTree))
  /-- A list of tables made by double headers: the last of them. -/
  | tables (last : List (String × TomlTree))
deriving Repr, Inhabited

namespace TomlTree

/-- The entries of a table. -/
abbrev Entries := List (String × TomlTree)

/-- The value of a key. -/
def get? (es : Entries) (key : String) : Option TomlTree := (es.find? (·.1 = key)).map (·.2)

/-- Gives a key a value, in place if the key is there. -/
def put (es : Entries) (key : String) (v : TomlTree) : Entries :=
  if es.any (·.1 = key) then es.map fun e => if e.1 = key then (key, v) else e
  else es ++ [(key, v)]

/-- Adds a value under the rest of a dotted key, in a table that may or may not take entries from
it. -/
def insertBelow? (takes : Bool) (es : Entries) : List String → TomlTree → Option Entries
  | [], _ => none
  | [key], v => if !takes || (get? es key).isSome then none else some (put es key v)
  | key :: path, v =>
    match get? es key with
    | none => do return put es key (.table .dotted (← insertBelow? true [] path v))
    | some (.table .header _) => none
    | some (.table origin inner) => do
      return put es key (.table origin (← insertBelow? (origin = .dotted) inner path v))
    | some (.tables last) => do return put es key (.tables (← insertBelow? false last path v))
    | _ => none

/-- Adds a value under a dotted key.  A key is used once; a dotted key cannot lead through a table
with a header of its own, and adds entries only to tables that dotted keys made. -/
def insert? (es : Entries) (path : List String) (v : TomlTree) : Option Entries :=
  insertBelow? true es path v

/-- Adds a value under a dotted key in the table that a header names. -/
def insertAt? (es : Entries) : List String → List String → TomlTree → Option Entries
  | [], path, v => insert? es path v
  | key :: place, path, v =>
    match get? es key with
    | some (.table origin inner) => do
      return put es key (.table origin (← insertAt? inner place path v))
    | some (.tables last) => do return put es key (.tables (← insertAt? last place path v))
    | _ => none

/-- Opens a single header.  A table has one header at most, and none if dotted keys made it. -/
def open? (es : Entries) : List String → Option Entries
  | [] => none
  | [key] =>
    match get? es key with
    | none => some (put es key (.table .header []))
    | some (.table .implied inner) => some (put es key (.table .header inner))
    | _ => none
  | key :: path =>
    match get? es key with
    | none => do return put es key (.table .implied (← open? [] path))
    | some (.table origin inner) => do return put es key (.table origin (← open? inner path))
    | some (.tables last) => do return put es key (.tables (← open? last path))
    | _ => none

/-- Opens a double header: one more table in a list of tables. -/
def openNext? (es : Entries) : List String → Option Entries
  | [] => none
  | [key] =>
    match get? es key with
    | none => some (put es key (.tables []))
    | some (.tables _) => some (put es key (.tables []))
    | _ => none
  | key :: path =>
    match get? es key with
    | none => do return put es key (.table .implied (← openNext? [] path))
    | some (.table origin inner) => do return put es key (.table origin (← openNext? inner path))
    | some (.tables last) => do return put es key (.tables (← openNext? last path))
    | _ => none

/-! ## Reading -/

/-- Drops spaces and tabs. -/
def skipBlanks (cs : List Char) : List Char := cs.dropWhile fun c => c = ' ' || c = '\t'

/-- Drops a comment, if there is one; it ends before a line break. -/
def skipComment (cs : List Char) : List Char :=
  match cs with
  | '#' :: rest => rest.dropWhile TomlScalar.isInline
  | _ => cs

/-- Drops blanks, comments and line breaks. -/
def skipLines : Nat → List Char → List Char
  | 0, cs => cs
  | fuel + 1, cs =>
    match TomlScalar.lineBreak? (skipComment (skipBlanks cs)) with
    | some rest => skipLines fuel rest
    | none => skipComment (skipBlanks cs)

/-- A character of a key without quotes. -/
def isBareKeyChar (c : Char) : Bool :=
  ('a' ≤ c && c ≤ 'z') || ('A' ≤ c && c ≤ 'Z') || ('0' ≤ c && c ≤ '9') || c = '_' || c = '-'

/-- Reads one key. -/
def simpleKey? (cs : List Char) : Option (String × List Char) :=
  let bare := cs.takeWhile isBareKeyChar
  if bare ≠ [] then some (String.ofList bare, cs.drop bare.length)
  else (TomlScalar.inlineString? cs).map fun r => (String.ofList r.1, r.2)

/-- How deep brackets may nest, and how many parts a dotted key may have. -/
def nestingLimit : Nat := 80

/-- Reads a key of at most so many parts with dots between them, and the blanks after it. -/
def keyParts? : Nat → List Char → Option (List String × List Char)
  | 0, _ => none
  | limit + 1, cs => do
    let (k, rest) ← simpleKey? (skipBlanks cs)
    match skipBlanks rest with
    | '.' :: rest => do
      let (ks, rest) ← keyParts? limit rest
      return (k :: ks, rest)
    | rest => return ([k], rest)

/-- Reads a key with dots, and the blanks after it. -/
def key? (cs : List Char) : Option (List String × List Char) := keyParts? nestingLimit cs

/-- A character that may be part of a scalar without quotes. -/
def isBareChar (c : Char) : Bool := isBareKeyChar c || c = '+' || c = '.' || c = ':'

/-- Reads a scalar without quotes; a blank can stand between a date and a time. -/
def bare? (cs : List Char) : Option (TomlScalar × List Char) :=
  let first := cs.takeWhile isBareChar
  let rest := cs.drop first.length
  let second :=
    match rest with
    | ' ' :: more => more.takeWhile isBareChar
    | _ => []
  if (TomlScalar.date? first) = some [] ∧ second.head?.any TomlScalar.isDigit then
    (TomlScalar.bare? (first ++ ' ' :: second)).map fun s => (s, rest.drop (second.length + 1))
  else (TomlScalar.bare? first).map fun s => (s, rest)

mutual

/-- Reads a value in which at most `limit` brackets are open at a time. -/
def value? (limit : Nat) : Nat → List Char → Option (TomlTree × List Char)
  | 0, _ => none
  | fuel + 1, cs =>
    match limit, cs with
    | limit + 1, '[' :: rest =>
      (items? limit fuel (skipLines fuel rest)).map fun rest => (.closed, rest)
    | limit + 1, '{' :: rest =>
      (pairs? limit fuel [] (skipLines fuel rest)).map fun rest => (.closed, rest)
    | _, c :: _ =>
      if c = '"' ∨ c = '\'' then
        (TomlScalar.string? cs).map fun r => (.scalar (.string (String.ofList r.1)), r.2)
      else (bare? cs).map fun r => (.scalar r.1, r.2)
    | _, [] => none

/-- Reads the items of an array up to its end. -/
def items? (limit : Nat) : Nat → List Char → Option (List Char)
  | 0, _ => none
  | fuel + 1, cs =>
    match cs with
    | ']' :: rest => some rest
    | _ => do
      let (_, rest) ← value? limit fuel cs
      match skipLines fuel rest with
      | ',' :: rest => items? limit fuel (skipLines fuel rest)
      | ']' :: rest => some rest
      | _ => none

/-- Reads the pairs of a table in one piece up to its end; its lines may break anywhere but within a
key. -/
def pairs? (limit : Nat) : Nat → Entries → List Char → Option (List Char)
  | 0, _, _ => none
  | fuel + 1, es, cs =>
    match cs with
    | '}' :: rest => some rest
    | _ => do
      let (path, rest) ← key? cs
      let '=' :: rest := skipLines fuel rest | none
      let (v, rest) ← value? limit fuel (skipLines fuel rest)
      let es ← insert? es path v
      match skipLines fuel rest with
      | ',' :: rest => pairs? limit fuel es (skipLines fuel rest)
      | '}' :: rest => some rest
      | _ => none

end

/-- A document in the making: its top-level table and the header that is open. -/
structure Draft where
  entries : Entries := []
  place : List String := []
deriving Repr

/-- The rest after the end of a line. -/
def endOfLine? (cs : List Char) : Option (List Char) :=
  match skipComment (skipBlanks cs) with
  | [] => some []
  | cs => TomlScalar.lineBreak? cs

/-- Reads what one line, or a value on several lines, adds to a document. -/
def entry? (fuel : Nat) (d : Draft) (cs : List Char) : Option (Draft × List Char) :=
  match cs with
  | '[' :: '[' :: rest => do
    let (path, ']' :: ']' :: rest) ← key? rest | none
    return (⟨← openNext? d.entries path, path⟩, rest)
  | '[' :: rest => do
    let (path, ']' :: rest) ← key? rest | none
    return (⟨← open? d.entries path, path⟩, rest)
  | _ => do
    let (path, '=' :: rest) ← key? cs | none
    let (v, rest) ← value? nestingLimit fuel (skipBlanks rest)
    return (⟨← insertAt? d.entries d.place path v, d.place⟩, rest)

/-- Reads the lines of a document. -/
def lines? : Nat → Draft → List Char → Option Draft
  | 0, _, _ => none
  | fuel + 1, d, cs =>
    match skipLines (fuel + 1) cs with
    | [] => some d
    | cs => do
      let (d, rest) ← entry? (fuel + 1) d cs
      lines? fuel d (← endOfLine? rest)

/-- The text after a byte order mark. -/
def skipMark (cs : List Char) : List Char :=
  match cs with
  | '\uFEFF' :: rest => rest
  | _ => cs

/-- The top-level table of a document. -/
def parse? (cs : List Char) : Option Entries :=
  let text := skipMark cs
  (lines? (text.length + 1) {} text).map (·.entries)

/-- A value as a field of a record; nothing but text, whole numbers and truth values can be one. -/
def field : TomlTree → RawJson
  | .scalar (.string s) => .str (some s)
  | .scalar (.integer n) => .num (some (.int n))
  | .scalar (.boolean b) => .bool b
  | _ => .null

/-- The top-level table as a record. -/
def record (es : Entries) : RawJson := .obj (es.map fun e => (some e.1, e.2.field))

end TomlTree
end ProxyFeed

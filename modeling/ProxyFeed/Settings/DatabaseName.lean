import ProxyFeed.Text.Percent
import ProxyFeed.Text.Form

/-!
# Database names

The database engine takes a name and ways to open it.  A name is a path, or a URI with options of
its own that follow the path.

## What is here

* `Opening` — a name taken apart: the path and how it is opened.
* `Opening.ofName?` — takes a name apart; `none` if the engine refuses it.
* `FileSystem` — the directories that matter; `FileSystem.resolve?` finds the file of a path.
* `Opening.outcome` — can the database be opened, and can it be written?
-/

set_option autoImplicit false
namespace ProxyFeed

/-- What may be done with a file, from the least to the most. -/
inductive Access where
  | readOnly
  | readWrite
  /-- Reading and writing, and making the file if it is missing. -/
  | create
deriving DecidableEq, Repr

/-- The place of an access in their order. -/
def Access.rank : Access → Nat
  | .readOnly => 0
  | .readWrite => 1
  | .create => 2

/-- How a database is opened. -/
structure Opening where
  path : List UInt8
  access : Access
  inMemory : Bool
  /-- Is the file taken to be one that nobody changes? -/
  immutable : Bool := false
  /-- The name of the layer between the engine and the files. -/
  layer : List UInt8 := utf8 "unix"
deriving DecidableEq, Repr

namespace Opening

/-! ## Names -/

/-- A part of a URI without its escapes; a null byte ends it. -/
def part (cs : List Char) : List UInt8 := (Percent.decode cs).takeWhile (· ≠ 0)

/-- The rest of a URI after its authority, which has to be empty or this machine. -/
def afterAuthority? (cs : List Char) : Option (List Char) :=
  match cs with
  | '/' :: '/' :: rest =>
    let authority := rest.takeWhile (· ≠ '/')
    if authority = [] ∨ authority = "localhost".toList then some (rest.drop authority.length)
    else none
  | _ => some cs

/-- The options of a URI; those without a name do not count. -/
def uriOptions (cs : List Char) : List (List UInt8 × List UInt8) :=
  ((Form.splitAt '&' cs).map fun option =>
    (part (option.takeWhile (· ≠ '=')), part ((option.dropWhile (· ≠ '=')).drop 1))).filter
      (·.1 ≠ [])

/-- Opens with another access.  No more may be asked for than before, unless the database is in
memory. -/
def withAccess? (o : Opening) (access : Access) : Option Opening :=
  if !o.inMemory && o.access.rank < access.rank then none
  else some { o with access, inMemory := false }

/-- Takes in one option of a URI. -/
def withOption? (o : Opening) (name value : List UInt8) : Option Opening :=
  if name = utf8 "vfs" then some { o with layer := value }
  else if name = utf8 "cache" then
    if value = utf8 "shared" ∨ value = utf8 "private" then some o else none
  else if name = utf8 "mode" then
    if value = utf8 "ro" then o.withAccess? .readOnly
    else if value = utf8 "rw" then o.withAccess? .readWrite
    else if value = utf8 "rwc" then o.withAccess? .create
    else if value = utf8 "memory" then some { o with access := .create, inMemory := true }
    else none
  else some o

/-- The lower-case form of an ASCII letter. -/
def lowerByte (b : UInt8) : UInt8 := if 0x41 ≤ b ∧ b ≤ 0x5A then b + 0x20 else b

/-- Does the value of an option say yes?  A number does unless it is zero modulo 256. -/
def saysYes (value : List UInt8) : Bool :=
  let isDigit (b : UInt8) : Bool := 0x30 ≤ b && b ≤ 0x39
  let digits := value.takeWhile isDigit
  if digits ≠ [] then digits.foldl (fun n d => (n * 10 + (d.toNat - 0x30)) % 256) 0 ≠ 0
  else [utf8 "on", utf8 "yes", utf8 "true"].contains (value.map lowerByte)

/-- Takes a URI apart, after its scheme.  Of repeated options the last one counts, but the first of
those that say whether a file is immutable. -/
def ofUri? (o : Opening) (cs : List Char) : Option Opening := do
  let rest ← afterAuthority? cs
  let text := rest.takeWhile (· ≠ '#')
  let options := uriOptions ((text.dropWhile (· ≠ '?')).drop 1)
  let o ← options.foldlM (fun (o : Opening) option => o.withOption? option.1 option.2) o
  let immutable := options.find? (·.1 = utf8 "immutable")
  return { o with
    path := part (text.takeWhile (· ≠ '?'))
    immutable := immutable.any (saysYes ·.2) }

/-- The scheme of URIs. -/
def scheme : List Char := "file:".toList

/-- Takes a name apart; a null character cannot be in a name. -/
def ofName? (name : List Char) (access : Access) (inMemory : Bool) : Option Opening :=
  let o : Opening := { path := Utf8.encode name, access, inMemory }
  if name.contains '\x00' then none
  else if scheme.isPrefixOf name then o.ofUri? (name.drop scheme.length)
  else some o

end Opening

/-! ## Files -/

/-- The directories that matter, as their names from the root on. -/
structure FileSystem where
  current : List (List UInt8)
  directories : List (List (List UInt8))
  /-- The directories in which files can be made. -/
  writable : List (List (List UInt8))
deriving Repr

namespace FileSystem

/-- The greatest length of a name in a directory. -/
def maxNameLength : Nat := 255

/-- The greatest length of a path. -/
def maxPathLength : Nat := 504

/-- The names in a path, which slashes separate. -/
def names : List UInt8 → List (List UInt8)
  | [] => [[]]
  | b :: bs =>
    if b = 0x2F then [] :: names bs
    else
      match names bs with
      | [] => [[b]]
      | name :: rest => (b :: name) :: rest

/-- Goes from a directory to a name in it, to the directory itself or to the one above. -/
def step (place : List (List UInt8)) (name : List UInt8) : List (List UInt8) :=
  if name = [] ∨ name = utf8 "." then place
  else if name = utf8 ".." then place.dropLast
  else place ++ [name]

/-- The length of a path from the root on. -/
def length (place : List (List UInt8)) : Nat :=
  place.foldl (fun n name => n + 1 + name.length) 0

/-- The file that a path names; `none` if it is too long, or a directory. -/
def resolve? (fs : FileSystem) (path : List UInt8) : Option (List (List UInt8)) :=
  let start := if path.head? = some 0x2F then [] else fs.current
  let place := (names path).foldl step start
  if (names path).any (maxNameLength < ·.length) ∨ maxPathLength < length place ∨
      fs.directories.contains place then none
  else some place

/-- Can a file be made? -/
def canMake (fs : FileSystem) (place : List (List UInt8)) : Bool :=
  place ≠ [] && fs.writable.contains place.dropLast

end FileSystem

namespace Opening

/-! ## Opening -/

/-- What becomes of a database that is to be opened. -/
inductive Outcome where
  | fails
  | opensReadOnly
  | opens
deriving DecidableEq, Repr

/-- The layer that keeps files in memory. -/
def memoryLayer : List UInt8 := utf8 "memdb"

/-- The layers there are. -/
def layers : List (List UInt8) :=
  memoryLayer :: ["unix", "unix-none", "unix-dotfile", "unix-excl"].map utf8

/-- The longest end that the engine adds to the name of a database to name a file beside it. -/
def besideLength : Nat := "-journal".length

/-- Can the database be opened, and can it be written?  Files are made where there is none. -/
def outcome (fs : FileSystem) (o : Opening) : Outcome :=
  let opened (writable : Bool) : Outcome := if writable then .opens else .opensReadOnly
  if !layers.contains o.layer then .fails
  else if o.inMemory || o.path = utf8 ":memory:" || o.path = [] then opened (o.access ≠ .readOnly)
  else if o.layer = memoryLayer then opened (o.access ≠ .readOnly && !o.immutable)
  else
    match fs.resolve? o.path with
    | none => .fails
    | some place =>
      let nameLength := (place.getLast?.getD []).length
      if o.access ≠ .create ∨ !fs.canMake place then .fails
      else if o.immutable then .opensReadOnly
      else if FileSystem.maxNameLength < nameLength + besideLength then .fails
      else .opens

end Opening
end ProxyFeed

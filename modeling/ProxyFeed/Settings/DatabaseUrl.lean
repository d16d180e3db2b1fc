import ProxyFeed.Settings.DatabaseName
import ProxyFeed.Text.Quoted

/-!
# Database addresses

An address names a database file, or a database in memory, after the scheme `sqlite:`.

## What is here

* `DatabaseUrl.parse` — the name and options an address gives.
* `DatabaseUrl.opening?` — how the database is opened.
* `DatabaseUrl.check` — can a database be opened and set up there?
-/

set_option autoImplicit false
namespace ProxyFeed

/-- Where a database is. -/
structure DatabaseUrl where
  name : String
  inMemory : Bool := false
  readOnly : Bool := false
  immutable : Bool := false
  /-- The layer between the engine and the files, if one is asked for. -/
  layer : Option String := none
deriving DecidableEq, Repr

namespace DatabaseUrl

/-- What is wrong with an address. -/
inductive Error where
  | wrongScheme
  | notText (fault : Utf8.Fault)
  | badValue (key value : String)
  | unknownParameter (key : String)
  | cannotConnect
  /-- The database opens, but its tables cannot be made. -/
  | cannotMigrate
deriving DecidableEq, Repr

/-- The message of an error. -/
def Error.message : Error → String
  | .wrongScheme => "DATABASE_URL must start with sqlite:"
  | .notText fault => "error with configuration: " ++ fault.message
  | .badValue key value =>
    "error with configuration: unknown value " ++ Quoted.text value ++ " for \x60" ++ key ++ "\x60"
  | .unknownParameter key =>
    "error with configuration: unknown query parameter \x60" ++ key ++
      "\x60 while parsing connection URL"
  | .cannotConnect => "Failed to connect to SQLite"
  | .cannotMigrate => "Failed to run migrations"

/-- Cuts repeated occurrences of a text off the front. -/
def trimFront (front : List Char) : Nat → List Char → List Char
  | 0, cs => cs
  | fuel + 1, cs =>
    if front ≠ [] ∧ front.isPrefixOf cs then trimFront front fuel (cs.drop front.length) else cs

/-- Takes in one option. -/
def withOption (u : DatabaseUrl) (key value : String) : Except Error DatabaseUrl :=
  if key = "mode" then
    if value = "ro" then .ok { u with readOnly := true }
    else if value = "rw" ∨ value = "rwc" then .ok u
    else if value = "memory" then .ok { u with inMemory := true }
    else .error (.badValue key value)
  else if key = "cache" then
    if value = "private" ∨ value = "shared" then .ok u else .error (.badValue key value)
  else if key = "immutable" then
    if value = "true" ∨ value = "1" then .ok { u with immutable := true }
    else if value = "false" ∨ value = "0" then .ok { u with immutable := false }
    else .error (.badValue key value)
  else if key = "vfs" then .ok { u with layer := some value }
  else .error (.unknownParameter key)

/-- The scheme of addresses. -/
def scheme : List Char := "sqlite:".toList

/-- The name of a database that has no file. -/
def memoryName : String := "file:memory"

/-- The name and options an address gives. -/
def parse (url : String) : Except Error DatabaseUrl := do
  let cs := url.toList
  if !scheme.isPrefixOf cs then throw .wrongScheme
  let rest := trimFront "//".toList cs.length (trimFront scheme cs.length cs)
  let location := rest.takeWhile (· ≠ '?')
  let options := Form.decode ((rest.dropWhile (· ≠ '?')).drop 1)
  let start : DatabaseUrl ←
    if location = ":memory:".toList then pure { name := memoryName, inMemory := true }
    else
      let bytes := Percent.decode location
      match Utf8.fault? bytes with
      | some fault => throw (.notText fault)
      | none => pure { name := String.ofList (Utf8.decodeLossy bytes) }
  let text (bs : List UInt8) : String := String.ofList (Utf8.decodeLossy bs)
  options.foldlM (fun (u : DatabaseUrl) (o : List UInt8 × List UInt8) =>
    u.withOption (text o.1) (text o.2)) start

/-- The options that the engine is told in a URI. -/
def uriOptions (u : DatabaseUrl) : List (String × String) :=
  (if u.immutable then [("immutable", "true")] else []) ++
    (u.layer.map fun layer => ("vfs", layer)).toList

/-- The name that the engine is given: a URI if there are options to tell it. -/
def engineName (u : DatabaseUrl) : List Char :=
  if u.uriOptions = [] then u.name.toList
  else
    Opening.scheme ++ Percent.encode Percent.isAlphanumeric (utf8 u.name) ++
      '?' :: Form.encode u.uriOptions

/-- How the database is opened; `none` if the engine refuses its name. -/
def opening? (u : DatabaseUrl) : Option Opening :=
  Opening.ofName? u.engineName (if u.readOnly then .readOnly else .create) u.inMemory

/-- Checks that a database can be opened, and that its tables can be made. -/
def check (fs : FileSystem) (url : String) : Except Error Unit := do
  let u ← parse url
  match u.opening?.map (Opening.outcome fs) with
  | some .opens => return ()
  | some .opensReadOnly => throw .cannotMigrate
  | _ => throw .cannotConnect

end DatabaseUrl
end ProxyFeed

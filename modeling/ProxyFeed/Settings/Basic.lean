import ProxyFeed.Toml.Document
import ProxyFeed.Text.Blank
import ProxyFeed.Text.Utf8

/-!
# Settings

How the service is set up: from a configuration file if there is one, else from environment
variables.

## What is here

* `Settings` — the settings, with their defaults; only the database has none.
* `Settings.ofRaw?` and `Settings.toJson` — the record form.  A configuration file is read through
  it, so a value of the wrong type or out of range is an error there.
* `Settings.ofEnvironment` — the same settings from variables, where a value that cannot be read
  counts as absent.
* `Settings.normalize` — puts the subscription path between single slashes.
* `Settings.load` — the settings of a running service.
-/

set_option autoImplicit false
namespace ProxyFeed

/-- The settings of the service. -/
structure Settings where
  databaseUrl : String
  listenPort : UInt16 := 2096
  subPath : String := "/sub/"
  remarkModel : String := "-ieo"
  /-- Do names of links show the remaining traffic? -/
  showInfo : Bool := true
  /-- Is the body of a subscription in base64? -/
  encrypt : Bool := true
  /-- Hours between updates. -/
  updateInterval : UInt32 := 12
  title : String := ""
  converterUrl : String := "https://sub.datapipe.top/sub"
  converterTimeoutSecs : UInt64 := 30
  /-- The placeholder port in links sent to the converter. -/
  hiddenPort : UInt16 := 45556
deriving DecidableEq, Repr

/-- Why there are no settings. -/
inductive SettingsError where
  | invalidFile
  | databaseNotSet
deriving DecidableEq, Repr

namespace SettingsError

/-- The message of an error. -/
def message : SettingsError → String
  | .invalidFile => "Invalid config file ./sub.toml"
  | .databaseNotSet => "DATABASE_URL is not set"

end SettingsError

namespace Settings

/-- The defaults, for a database. -/
def defaults (databaseUrl : String) : Settings := { databaseUrl }

/-! ## As a record -/

/-- The fields of a record, in order. -/
def fieldNames : List String :=
  ["database_url", "listen_port", "sub_path", "remark_model", "show_info", "encrypt",
    "update_interval", "title", "converter_url", "converter_timeout_secs", "hidden_port"]

/-- The values of the fields, in order. -/
def fieldValues (s : Settings) : List Json :=
  [.str s.databaseUrl, .ofInt s.listenPort.toNat, .str s.subPath, .str s.remarkModel,
    .bool s.showInfo, .bool s.encrypt, .ofInt s.updateInterval.toNat, .str s.title,
    .str s.converterUrl, .ofInt s.converterTimeoutSecs.toNat, .ofInt s.hiddenPort.toNat]

/-- The settings as JSON. -/
def toJson (s : Settings) : Json := .obj (fieldNames.zip s.fieldValues)

/-- Reads the settings; only the database has to be there. -/
def ofRaw? (v : RawJson) : Option Settings := do
  let [databaseUrl, listenPort, subPath, remarkModel, showInfo, encrypt, updateInterval, title,
    converterUrl, converterTimeoutSecs, hiddenPort] ← v.fields? fieldNames | none
  let databaseUrl ← RawJson.required RawJson.text? databaseUrl
  let d := defaults databaseUrl
  return {
    databaseUrl
    listenPort := ← RawJson.orElse d.listenPort RawJson.uint16? listenPort
    subPath := ← RawJson.orElse d.subPath RawJson.text? subPath
    remarkModel := ← RawJson.orElse d.remarkModel RawJson.text? remarkModel
    showInfo := ← RawJson.orElse d.showInfo RawJson.bool? showInfo
    encrypt := ← RawJson.orElse d.encrypt RawJson.bool? encrypt
    updateInterval := ← RawJson.orElse d.updateInterval RawJson.uint32? updateInterval
    title := ← RawJson.orElse d.title RawJson.text? title
    converterUrl := ← RawJson.orElse d.converterUrl RawJson.text? converterUrl
    converterTimeoutSecs :=
      ← RawJson.orElse d.converterTimeoutSecs RawJson.uint64? converterTimeoutSecs
    hiddenPort := ← RawJson.orElse d.hiddenPort RawJson.uint16? hiddenPort }

/-! ## From variables -/

/-- A natural number up to a bound: decimal digits after an optional plus sign. -/
def number? (bound : Nat) (text : String) : Option Nat :=
  let ds :=
    match text.toList with
    | '+' :: rest => rest
    | cs => cs
  if ds ≠ [] ∧ ds.all NumberText.isDigit ∧ NumberText.digitsValue ds ≤ bound then
    some (NumberText.digitsValue ds)
  else none

/-- A truth value. -/
def truth? (text : String) : Option Bool :=
  if text = "true" then some true else if text = "false" then some false else none

/-- The settings in environment variables. -/
def ofEnvironment (var : String → Option String) : Except SettingsError Settings :=
  match var "DATABASE_URL" with
  | none => .error .databaseNotSet
  | some databaseUrl =>
    let d := defaults databaseUrl
    let read {α : Type} (name : String) (parse : String → Option α) (default : α) : α :=
      ((var name).bind parse).getD default
    .ok {
      databaseUrl
      listenPort :=
        read "LISTEN_PORT" (fun v => (number? 0xFFFF v).map UInt16.ofNat) d.listenPort
      subPath := (var "SUB_PATH").getD d.subPath
      remarkModel := (var "REMARK_MODEL").getD d.remarkModel
      showInfo := read "SUB_SHOW_INFO" truth? d.showInfo
      encrypt := read "SUB_ENCRYPT" truth? d.encrypt
      updateInterval :=
        read "SUB_UPDATES" (fun v => (number? 0xFFFFFFFF v).map UInt32.ofNat) d.updateInterval
      title := (var "SUB_TITLE").getD d.title
      converterUrl := (var "CONVERTER_URL").getD d.converterUrl
      converterTimeoutSecs :=
        read "CONVERTER_TIMEOUT_SECS" (fun v => (number? 0xFFFFFFFFFFFFFFFF v).map UInt64.ofNat)
          d.converterTimeoutSecs
      hiddenPort :=
        read "HIDDEN_PORT" (fun v => (number? 0xFFFF v).map UInt16.ofNat) d.hiddenPort }

/-! ## The settings of a service -/

/-- A path between single slashes; the root path is a single slash. -/
def normalizePath (path : String) : String :=
  let inner := Blank.trimBy (· = '/') path.toList
  if inner = [] then "/" else String.ofList ('/' :: (inner ++ ['/']))

/-- The settings with their subscription path between slashes. -/
def normalize (s : Settings) : Settings := { s with subPath := normalizePath s.subPath }

/-- The settings in the text of a configuration file. -/
def ofToml (text : List Char) : Except SettingsError Settings :=
  match (TomlTree.parse? text).bind fun es => ofRaw? (TomlTree.record es) with
  | some s => .ok s
  | none => .error .invalidFile

/-- The settings of a running service: from the configuration file if there is one and it is text,
else from the variables. -/
def load (file : Option (List UInt8)) (var : String → Option String) :
    Except SettingsError Settings :=
  match file.bind Utf8.decode? with
  | some text => (ofToml text).map normalize
  | none => (ofEnvironment var).map normalize

end Settings
end ProxyFeed

import ProxyFeed.Proofs.Json.StoredRecords
import ProxyFeed.Proofs.Text.Blank
import ProxyFeed.Proofs.Toml.Document
import ProxyFeed.Text.RoundTrip

/-!
# The two sources of the settings

The settings come from a file, where every value has a type, or from environment variables, where
every value is a text.  The same choice of values gives the same settings from either, and whatever
the source, the path of the settings is in its normal form.

## What is here

* `Settings.Choice` — values for any of the settings, and the settings that they make.
* `Settings.Choice.InFile` and `Settings.Choice.InVariables` — a source that holds a choice.
* `Settings.ofToml_of_inFile` and `Settings.ofEnvironment_of_inVariables` — each source is read.
* `Settings.BetweenSlashes` — the normal form of a path; `Settings.normalizePath_betweenSlashes` and
  `Settings.normalizePath_of_betweenSlashes`.
-/

set_option autoImplicit false
namespace ProxyFeed

open TomlTree (Plain)

namespace TomlTree

/-- A value as a variable holds it. -/
def Plain.shown : Plain → String
  | .text s => s
  | .number n => toString n
  | .truth b => toString b

/-! ## Tables as records -/

/-- The fields of a table are found by their names. -/
theorem fields?_record {es : Entries} (apart : (keys es).Nodup) (names : List String) :
    (record es).fields? names = some ((names.map (get? es)).map (Option.map field)) := by
  have once : ∀ name ∈ names, (es.map Prod.fst).count name ≤ 1 :=
    fun name _ => List.nodup_iff_count_le_one.1 apart name
  rw [record, RawJson.fields?_map, if_pos once, List.map_map]
  rfl

end TomlTree

namespace Settings

/-! ## Choices -/

/-- The variables, in the order of the fields. -/
def variableNames : List String :=
  ["DATABASE_URL", "LISTEN_PORT", "SUB_PATH", "REMARK_MODEL", "SUB_SHOW_INFO", "SUB_ENCRYPT",
    "SUB_UPDATES", "SUB_TITLE", "CONVERTER_URL", "CONVERTER_TIMEOUT_SECS", "HIDDEN_PORT"]

/-- A database, and values for any of the other settings. -/
structure Choice where
  databaseUrl : String
  listenPort : Option UInt16 := none
  subPath : Option String := none
  remarkModel : Option String := none
  showInfo : Option Bool := none
  encrypt : Option Bool := none
  updateInterval : Option UInt32 := none
  title : Option String := none
  converterUrl : Option String := none
  converterTimeoutSecs : Option UInt64 := none
  hiddenPort : Option UInt16 := none
deriving DecidableEq, Repr

namespace Choice

/-- What is chosen for each field, in order. -/
def values (c : Choice) : List (Option Plain) :=
  [some (.text c.databaseUrl), c.listenPort.map fun n => .number n.toNat, c.subPath.map .text,
    c.remarkModel.map .text, c.showInfo.map .truth, c.encrypt.map .truth,
    c.updateInterval.map fun n => .number n.toNat, c.title.map .text, c.converterUrl.map .text,
    c.converterTimeoutSecs.map fun n => .number n.toNat, c.hiddenPort.map fun n => .number n.toNat]

/-- The settings of a choice: the defaults, except where something was chosen. -/
def settings (c : Choice) : Settings :=
  let d := defaults c.databaseUrl
  { databaseUrl := c.databaseUrl
    listenPort := c.listenPort.getD d.listenPort
    subPath := c.subPath.getD d.subPath
    remarkModel := c.remarkModel.getD d.remarkModel
    showInfo := c.showInfo.getD d.showInfo
    encrypt := c.encrypt.getD d.encrypt
    updateInterval := c.updateInterval.getD d.updateInterval
    title := c.title.getD d.title
    converterUrl := c.converterUrl.getD d.converterUrl
    converterTimeoutSecs := c.converterTimeoutSecs.getD d.converterTimeoutSecs
    hiddenPort := c.hiddenPort.getD d.hiddenPort }

/-- A table gives the fields exactly the values that were chosen. -/
def InFile (c : Choice) (es : TomlTree.Entries) : Prop :=
  fieldNames.map (TomlTree.get? es) = c.values.map (Option.map Plain.tree)

/-- The variables hold exactly the values that were chosen. -/
def InVariables (c : Choice) (var : String → Option String) : Prop :=
  variableNames.map var = c.values.map (Option.map Plain.shown)

end Choice

/-! ## The file -/

theorem orElse_chosen {α : Type} (read : RawJson → Option α) (put : α → Plain)
    (reads : ∀ a, read (put a).tree.field = some a) (default : α) (chosen : Option α) :
    RawJson.orElse default read (((chosen.map put).map Plain.tree).map TomlTree.field) =
      some (chosen.getD default) := by
  cases chosen with
  | none => rfl
  | some a => exact reads a

theorem ofRaw?_of_chosen (c : Choice) {tree : RawJson} (fields : tree.fields? fieldNames =
      some ((c.values.map (Option.map Plain.tree)).map (Option.map TomlTree.field))) :
    ofRaw? tree = some c.settings := by
  have text := orElse_chosen RawJson.text? .text fun _ => rfl
  have truth := orElse_chosen RawJson.bool? .truth fun _ => rfl
  have port := orElse_chosen RawJson.uint16? (fun n => .number n.toNat) RawJson.uint16?_ofInt
  have hours := orElse_chosen RawJson.uint32? (fun n => .number n.toNat) RawJson.uint32?_ofInt
  have seconds := orElse_chosen RawJson.uint64? (fun n => .number n.toNat) RawJson.uint64?_ofInt
  have database : RawJson.required RawJson.text?
      (((some (Plain.text c.databaseUrl)).map Plain.tree).map TomlTree.field) =
        some c.databaseUrl := rfl
  simp only [Choice.values, List.map_cons, List.map_nil] at fields
  simp only [ofRaw?, fields, Option.bind_eq_bind, Option.bind_some, database, text, truth, port,
    hours, seconds]
  rfl

/-- **A file that holds a choice is read as its settings.** -/
theorem ofToml_of_inFile {c : Choice} {text : List Char} {es : TomlTree.Entries}
    (parsed : TomlTree.parse? text = some es) (held : c.InFile es) :
    ofToml text = .ok c.settings := by
  have fields := TomlTree.fields?_record (TomlTree.nodup_keys_of_parse? parsed) fieldNames
  rw [held] at fields
  rw [ofToml, parsed, Option.bind_some, ofRaw?_of_chosen c fields]

/-! ### A file for every choice -/

section Lines

variable {names : List String} {values : List (Option Plain)}

/-- Names with a value are given it, and the others are left out. -/
def linesOf (names : List String) (values : List (Option Plain)) : List (String × Plain) :=
  (names.zip values).filterMap fun given => given.2.map (given.1, ·)

theorem mem_linesOf {l : String × Plain} :
    l ∈ linesOf names values ↔ (l.1, some l.2) ∈ names.zip values := by
  simp only [linesOf, List.mem_filterMap, Option.map_eq_some_iff]
  constructor
  · rintro ⟨⟨name, v⟩, there, p, rfl, rfl⟩
    exact there
  · intro there
    exact ⟨(l.1, some l.2), there, l.2, rfl, rfl⟩

theorem keys_linesOf_sublist : ((linesOf names values).map Prod.fst).Sublist names := by
  induction names generalizing values with
  | nil => simp [linesOf]
  | cons name names ih =>
    cases values with
    | nil => simp [linesOf]
    | cons v values =>
      cases v with
      | none => exact ih.cons name
      | some p => exact ih.cons_cons name

/-- **Each name is found to have its value**, or to have none. -/
theorem map_get?_linesOf (apart : names.Nodup) (length : values.length = names.length) :
    names.map (TomlTree.get? (TomlTree.entries (linesOf names values))) =
      values.map (Option.map Plain.tree) := by
  induction names generalizing values with
  | nil => rw [List.eq_nil_of_length_eq_zero length, List.map_nil, List.map_nil]
  | cons name names ih =>
    obtain ⟨new, apart⟩ := List.nodup_cons.1 apart
    cases values with
    | nil => cases length
    | cons v values =>
      have later := ih apart (Nat.succ.inj length)
      have absent : TomlTree.get? (TomlTree.entries (linesOf names values)) name = none := by
        rw [TomlTree.get?_eq_none_iff, TomlTree.keys_entries]
        exact fun there => new (keys_linesOf_sublist.mem there)
      cases v with
      | none => exact congrArg₂ List.cons absent later
      | some p =>
        have shape : TomlTree.entries (linesOf (name :: names) (some p :: values)) =
            (name, p.tree) :: TomlTree.entries (linesOf names values) := rfl
        have skipped (other : String) (there : other ∈ names) :
            TomlTree.get? ((name, p.tree) :: TomlTree.entries (linesOf names values)) other =
              TomlTree.get? (TomlTree.entries (linesOf names values)) other := by
          rw [TomlTree.get?_cons, if_neg]
          rintro rfl
          exact new there
        rw [shape, List.map_cons, TomlTree.get?_cons, if_pos rfl, List.map_congr_left skipped,
          later]
        rfl

end Lines

namespace Choice

variable (c : Choice)

/-- The lines of a file with a choice. -/
def lines : List (String × Plain) := linesOf fieldNames c.values

theorem fits_of_mem_values : ∀ v ∈ c.values, ∀ p ∈ v, Plain.Fits p := by
  have text (s : String) : (Plain.text s).Fits := trivial
  have truth (b : Bool) : (Plain.truth b).Fits := trivial
  have number {n : Nat} (small : n < 0x10000000000000000) : (Plain.number n).Fits :=
    Nat.le_of_lt_succ small
  have port (n : UInt16) := number (n.toNat_lt.trans (by decide))
  have hours (n : UInt32) := number (n.toNat_lt.trans (by decide))
  have seconds (n : UInt64) := number n.toNat_lt
  simp only [values, List.forall_mem_cons, Option.mem_def, Option.map_eq_some_iff,
    forall_exists_index, and_imp, forall_apply_eq_imp_iff₂]
  simp [text, truth, port, hours, seconds]

theorem fits_of_mem_lines {l : String × Plain} (there : l ∈ c.lines) : l.2.Fits := by
  exact c.fits_of_mem_values _ (List.of_mem_zip (mem_linesOf.1 there)).2 l.2 rfl

theorem isBareKey_of_mem_lines {l : String × Plain} (there : l ∈ c.lines) :
    TomlTree.IsBareKey l.1 := by
  have bare : ∀ name ∈ fieldNames, TomlTree.IsBareKey name := by
    unfold TomlTree.IsBareKey
    decide +kernel
  exact bare _ (List.of_mem_zip (mem_linesOf.1 there)).1

/-- **Every choice has a file.** -/
theorem parse?_document_lines : TomlTree.parse? (TomlTree.document c.lines) =
    some (TomlTree.entries c.lines) :=
  TomlTree.parse?_document (fun _ => c.isBareKey_of_mem_lines) (fun _ => c.fits_of_mem_lines)
    (keys_linesOf_sublist.nodup (by decide))

theorem inFile_lines : c.InFile (TomlTree.entries c.lines) :=
  map_get?_linesOf (by decide) rfl

end Choice

/-! ## The variables -/

theorem number?_toString {bound n : Nat} (small : n ≤ bound) :
    number? bound (toString n) = some n := by
  have shown : (toString n).toList = Nat.toDigits 10 n := by simp [Nat.repr]
  obtain ⟨d, ds, shape, digits, -⟩ := NumberText.exists_toDigits_eq_cons n
  have value : NumberText.digitsValue (d :: ds) = n := shape ▸ NumberText.digitsValue_toDigits n
  have all : (d :: ds).all NumberText.isDigit = true := List.all_eq_true.2 digits
  have first := digits d List.mem_cons_self
  rw [number?, shown, shape]
  split
  · next same =>
    -- no number is written with a sign
    cases same
    exact absurd first (by decide)
  · simp only [value, all]
    simp [small]

theorem getD_chosen {α : Type} (parse : String → Option α) (put : α → Plain)
    (reads : ∀ a, parse (put a).shown = some a) (default : α) (chosen : Option α) :
    (((chosen.map put).map Plain.shown).bind parse).getD default = chosen.getD default := by
  cases chosen with
  | none => rfl
  | some a => exact congrArg (·.getD default) (reads a)

theorem getD_text (default : String) (chosen : Option String) :
    ((chosen.map Plain.text).map Plain.shown).getD default = chosen.getD default := by
  cases chosen <;> rfl

theorem uint16?_shown (n : UInt16) :
    (number? 0xFFFF (Plain.number n.toNat).shown).map UInt16.ofNat = some n := by
  have small := n.toNat_lt
  rw [Plain.shown, number?_toString (by omega), Option.map_some, UInt16.ofNat_toNat]

theorem uint32?_shown (n : UInt32) :
    (number? 0xFFFFFFFF (Plain.number n.toNat).shown).map UInt32.ofNat = some n := by
  have small := n.toNat_lt
  rw [Plain.shown, number?_toString (by omega), Option.map_some, UInt32.ofNat_toNat]

theorem uint64?_shown (n : UInt64) :
    (number? 0xFFFFFFFFFFFFFFFF (Plain.number n.toNat).shown).map UInt64.ofNat = some n := by
  have small := n.toNat_lt
  rw [Plain.shown, number?_toString (by omega), Option.map_some, UInt64.ofNat_toNat]

theorem truth?_shown (b : Bool) : truth? (Plain.truth b).shown = some b := by
  cases b <;> rfl

/-- **Variables that hold a choice are read as its settings.** -/
theorem ofEnvironment_of_inVariables {c : Choice} {var : String → Option String}
    (held : c.InVariables var) : ofEnvironment var = .ok c.settings := by
  have truth := getD_chosen truth? .truth truth?_shown
  have port := getD_chosen (fun v => (number? 0xFFFF v).map UInt16.ofNat)
    (fun n => .number n.toNat) uint16?_shown
  have hours := getD_chosen (fun v => (number? 0xFFFFFFFF v).map UInt32.ofNat)
    (fun n => .number n.toNat) uint32?_shown
  have seconds := getD_chosen (fun v => (number? 0xFFFFFFFFFFFFFFFF v).map UInt64.ofNat)
    (fun n => .number n.toNat) uint64?_shown
  simp only [Choice.InVariables, variableNames, Choice.values, List.map_cons, List.map_nil,
    List.cons.injEq, and_true] at held
  obtain ⟨database, listen, path, remark, info, encrypt, updates, title, converter, timeout,
    hidden⟩ := held
  simp only [ofEnvironment, database, listen, path, remark, info, encrypt, updates, title,
    converter, timeout, hidden, getD_text, truth, port, hours, seconds]
  rfl

/-! ## The path -/

/-- A path between single slashes: the root, or some text that has no slash at its ends. -/
def BetweenSlashes (path : String) : Prop :=
  path = "/" ∨ ∃ inner : List Char, inner ≠ [] ∧ inner.head? ≠ some '/' ∧
    inner.getLast? ≠ some '/' ∧ path = String.ofList ('/' :: (inner ++ ['/']))

theorem normalizePath_betweenSlashes (path : String) : BetweenSlashes (normalizePath path) := by
  rw [normalizePath]
  split
  · exact .inl rfl
  · next some_char =>
    refine .inr ⟨_, some_char, fun slash => ?_, fun slash => ?_, rfl⟩
    · exact absurd (Blank.head?_trimBy '/' slash) (by decide)
    · exact absurd (Blank.getLast?_trimBy '/' slash) (by decide)

theorem normalizePath_of_betweenSlashes {path : String} (between : BetweenSlashes path) :
    normalizePath path = path := by
  obtain rfl | ⟨inner, some_char, first, last, rfl⟩ := between
  · decide
  · have slash : ∀ c ∈ ['/'], decide (c = '/') = true := by decide
    have trimmed : Blank.trimBy (· = '/') ('/' :: (inner ++ ['/'])) = inner :=
      Blank.trimBy_append slash slash (fun c hc => decide_eq_false fun same => first (same ▸ hc))
        fun c hc => decide_eq_false fun same => last (same ▸ hc)
    rw [normalizePath, String.toList_ofList, trimmed]
    exact if_neg some_char

theorem normalize_of_betweenSlashes {s : Settings} (between : BetweenSlashes s.subPath) :
    s.normalize = s := by
  rw [normalize, normalizePath_of_betweenSlashes between]

/-- **Whatever the source, the path is in its normal form.** -/
theorem betweenSlashes_of_load {file : Option (List UInt8)} {var : String → Option String}
    {s : Settings} (loaded : load file var = .ok s) : BetweenSlashes s.subPath := by
  have normalized {source : Except SettingsError Settings} (made : source.map normalize = .ok s) :
      BetweenSlashes s.subPath := by
    cases source with
    | error e => cases made
    | ok read =>
      obtain rfl : read.normalize = s := Except.ok.inj made
      exact normalizePath_betweenSlashes read.subPath
  rw [load] at loaded
  split at loaded
  · exact normalized loaded
  · exact normalized loaded

/-! ## Both sources -/

/-- **The two sources agree.**  A file and variables that hold one choice give the same settings,
defaults included, and every choice has a file.  The path of any settings is in its normal form, so
that nothing changes when they are normalized again. -/
theorem sources_agree :
    (∀ (c : Choice) (text : List Char) (es : TomlTree.Entries) (var other : String → Option String),
      TomlTree.parse? text = some es → c.InFile es → c.InVariables var →
        load (some (Utf8.encode text)) other = .ok c.settings.normalize ∧
          load none var = .ok c.settings.normalize) ∧
    (∀ c : Choice, TomlTree.parse? (TomlTree.document c.lines) = some (TomlTree.entries c.lines) ∧
      c.InFile (TomlTree.entries c.lines)) ∧
    ∀ (file : Option (List UInt8)) (var : String → Option String) (s : Settings),
      load file var = .ok s → BetweenSlashes s.subPath ∧ s.normalize = s := by
  refine ⟨?_, fun c => ⟨c.parse?_document_lines, c.inFile_lines⟩, ?_⟩
  · intro c text es var other parsed held_in_file held_in_variables
    constructor
    · rw [load, Option.bind_some, Utf8.decode?_encode]
      exact congrArg (Except.map normalize) (ofToml_of_inFile parsed held_in_file)
    · exact congrArg (Except.map normalize) (ofEnvironment_of_inVariables held_in_variables)
  · intro file var s loaded
    have between := betweenSlashes_of_load loaded
    exact ⟨between, normalize_of_betweenSlashes between⟩

/-! ## One choice in both sources -/

/-- A database, and values for three of the other settings. -/
def feedChoice : Choice :=
  { databaseUrl := "sqlite:x.db", listenPort := some 8080, subPath := some "//feed/a",
    encrypt := some false }

/-- The file with this choice. -/
def feedFile : String :=
  "database_url = \"sqlite:x.db\"\nlisten_port = 8080\nsub_path = \"//feed/a\"\nencrypt = false\n"

/-- Variables with this choice. -/
def feedVariables (name : String) : Option String :=
  if name = "DATABASE_URL" then some "sqlite:x.db"
  else if name = "LISTEN_PORT" then some "8080"
  else if name = "SUB_PATH" then some "//feed/a"
  else if name = "SUB_ENCRYPT" then some "false"
  else none

theorem sources_agree_feed :
    feedChoice.InVariables feedVariables ∧
    load (some (utf8 feedFile)) (fun _ => none) =
      .ok { databaseUrl := "sqlite:x.db", listenPort := 8080, subPath := "/feed/a/",
            encrypt := false } ∧
    load none feedVariables = load (some (utf8 feedFile)) (fun _ => none) := by
  have written : TomlTree.document feedChoice.lines = feedFile.toList := by decide +kernel
  have in_variables : feedChoice.InVariables feedVariables := by
    unfold Choice.InVariables
    decide +kernel
  have settings : feedChoice.settings.normalize =
      { databaseUrl := "sqlite:x.db", listenPort := 8080, subPath := "/feed/a/",
        encrypt := false } := by decide +kernel
  obtain ⟨agree, files, -⟩ := sources_agree
  obtain ⟨parsed, in_file⟩ := files feedChoice
  rw [written] at parsed
  obtain ⟨from_file, from_variables⟩ :=
    agree feedChoice _ _ feedVariables (fun _ => none) parsed in_file in_variables
  rw [settings] at from_file from_variables
  exact ⟨in_variables, from_file, from_variables.trans from_file.symm⟩

end Settings
end ProxyFeed

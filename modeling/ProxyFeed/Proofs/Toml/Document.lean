import ProxyFeed.Toml.Document
import ProxyFeed.Proofs.Json.ReadBack
import ProxyFeed.Proofs.Keyed
import Mathlib.Data.List.Basic

/-!
# Documents of plain lines

A document that is read never gives one key two values, however its tables come about.  The other
way round, every list of different keys with texts, numbers and truth values has a document: one
line for each, where a character that cannot stand for itself in a text is given by its code
point.

## What is here

* `TomlTree.Puts` — what every step of the reader does to the top-level table: it puts one key.
* `TomlTree.nodup_keys_of_parse?` — the keys of a document that is read differ.
* `TomlTree.Plain` — a value on a line of its own, and `TomlTree.Plain.chars`, how it is written.
* `TomlTree.parse?_document` — the document of a list of keys and values is read as that list.
-/

set_option autoImplicit false
namespace ProxyFeed
namespace TomlTree

/-! ## The keys of a table differ -/

/-- The keys of a table. -/
abbrev keys (es : Entries) : List String := es.map Prod.fst

theorem nodup_keys_put {es : Entries} (apart : (keys es).Nodup) (key : String) (v : TomlTree) :
    (keys (put es key v)).Nodup :=
  Keyed.nodup_keys_put apart key v

theorem get?_cons (e : String × TomlTree) (es : Entries) (key : String) :
    get? (e :: es) key = if e.1 = key then some e.2 else get? es key :=
  Keyed.get?_cons e es key

theorem get?_eq_none_iff {es : Entries} {key : String} : get? es key = none ↔ key ∉ keys es :=
  Keyed.get?_eq_none_iff

theorem put_of_not_mem {es : Entries} {key : String} (new : key ∉ keys es) (v : TomlTree) :
    put es key v = es ++ [(key, v)] :=
  Keyed.put_of_not_mem new v

/-- The entries are those from before with one key put. -/
def Puts (es es' : Entries) : Prop := ∃ key v, es' = put es key v

theorem puts_of_bind {α : Type} {es es' : Entries} {key : String} {below : Option α}
    {v : α → TomlTree} (made : (below.bind fun inner => some (put es key (v inner))) = some es') :
    Puts es es' := by
  obtain ⟨inner, -, made⟩ := Option.bind_eq_some_iff.1 made
  exact ⟨key, v inner, (Option.some.inj made).symm⟩

theorem puts_of_insertBelow? {takes : Bool} {es es' : Entries} {path : List String} {v : TomlTree}
    (made : insertBelow? takes es path v = some es') : Puts es es' := by
  cases path with
  | nil => cases made
  | cons key path =>
    cases path with
    | nil =>
      simp only [insertBelow?, Option.ite_none_left_eq_some, Option.some.injEq] at made
      exact ⟨key, v, made.2.symm⟩
    | cons next path =>
      simp only [insertBelow?] at made
      split at made
      · exact puts_of_bind made
      · cases made
      · exact puts_of_bind made
      · exact puts_of_bind made
      · cases made

theorem puts_of_insertAt? {es es' : Entries} {place path : List String} {v : TomlTree}
    (made : insertAt? es place path v = some es') : Puts es es' := by
  cases place with
  | nil => exact puts_of_insertBelow? made
  | cons key place =>
    simp only [insertAt?] at made
    split at made
    · exact puts_of_bind made
    · exact puts_of_bind made
    · cases made

theorem puts_of_open? {es es' : Entries} {path : List String} (made : open? es path = some es') :
    Puts es es' := by
  cases path with
  | nil => cases made
  | cons key path =>
    cases path with
    | nil =>
      simp only [open?] at made
      split at made
      · exact ⟨key, _, (Option.some.inj made).symm⟩
      · exact ⟨key, _, (Option.some.inj made).symm⟩
      · cases made
    | cons next path =>
      simp only [open?] at made
      split at made
      · exact puts_of_bind made
      · exact puts_of_bind made
      · exact puts_of_bind made
      · cases made

theorem puts_of_openNext? {es es' : Entries} {path : List String}
    (made : openNext? es path = some es') : Puts es es' := by
  cases path with
  | nil => cases made
  | cons key path =>
    cases path with
    | nil =>
      simp only [openNext?] at made
      split at made
      · exact ⟨key, _, (Option.some.inj made).symm⟩
      · exact ⟨key, _, (Option.some.inj made).symm⟩
      · cases made
    | cons next path =>
      simp only [openNext?] at made
      split at made
      · exact puts_of_bind made
      · exact puts_of_bind made
      · exact puts_of_bind made
      · cases made

/-- **Every entry of a document puts one key into its table.** -/
theorem puts_of_entry? {fuel : Nat} {d d' : Draft} {cs rest : List Char}
    (made : entry? fuel d cs = some (d', rest)) : Puts d.entries d'.entries := by
  unfold entry? at made
  split at made
  · obtain ⟨⟨path, after⟩, -, made⟩ := Option.bind_eq_some_iff.1 made
    split at made
    · obtain ⟨entries, opened, made⟩ := Option.bind_eq_some_iff.1 made
      obtain ⟨rfl, -⟩ := Prod.mk.inj (Option.some.inj made)
      exact puts_of_openNext? opened
    · cases made
  · obtain ⟨⟨path, after⟩, -, made⟩ := Option.bind_eq_some_iff.1 made
    split at made
    · obtain ⟨entries, opened, made⟩ := Option.bind_eq_some_iff.1 made
      obtain ⟨rfl, -⟩ := Prod.mk.inj (Option.some.inj made)
      exact puts_of_open? opened
    · cases made
  · obtain ⟨⟨path, after⟩, -, made⟩ := Option.bind_eq_some_iff.1 made
    split at made
    · obtain ⟨⟨v, after⟩, -, made⟩ := Option.bind_eq_some_iff.1 made
      obtain ⟨entries, inserted, made⟩ := Option.bind_eq_some_iff.1 made
      obtain ⟨rfl, -⟩ := Prod.mk.inj (Option.some.inj made)
      exact puts_of_insertAt? inserted
    · cases made

theorem nodup_keys_of_lines? {fuel : Nat} {d d' : Draft} {cs : List Char}
    (apart : (keys d.entries).Nodup) (made : lines? fuel d cs = some d') :
    (keys d'.entries).Nodup := by
  induction fuel generalizing d cs with
  | zero => cases made
  | succ fuel ih =>
    rw [lines?] at made
    split at made
    · exact Option.some.inj made ▸ apart
    · obtain ⟨⟨next, rest⟩, entry, made⟩ := Option.bind_eq_some_iff.1 made
      obtain ⟨rest, -, made⟩ := Option.bind_eq_some_iff.1 made
      obtain ⟨key, v, put⟩ := puts_of_entry? entry
      exact ih (put ▸ nodup_keys_put apart key v) made

/-- **The keys of a document that is read differ.** -/
theorem nodup_keys_of_parse? {text : List Char} {es : Entries} (parsed : parse? text = some es) :
    (keys es).Nodup := by
  obtain ⟨d, read, rfl⟩ := Option.map_eq_some_iff.1 parsed
  exact nodup_keys_of_lines? (d := {}) List.nodup_nil read

end TomlTree

/-! ## Written scalars -/

namespace TomlScalar

/-- The last hexadecimal digits of a number. -/
def hexChars : Nat → Nat → List Char
  | 0, _ => []
  | k + 1, n => Json.lowerHex (n / Nat.pow 16 k % 16) :: hexChars k n

theorem hexDigits?_hexChars (k value n : Nat) (rest : List Char) :
    hexDigits? k value (hexChars k n ++ rest) =
      some (value * Nat.pow 16 k + n % Nat.pow 16 k, rest) := by
  induction k generalizing value with
  | zero => simp [hexDigits?, hexChars, Nat.mod_one]
  | succ k ih =>
    have digit : n / Nat.pow 16 k % 16 < 16 := Nat.mod_lt _ (by decide)
    have split : n % Nat.pow 16 (k + 1) =
        n % Nat.pow 16 k + Nat.pow 16 k * (n / Nat.pow 16 k % 16) := Nat.mod_pow_succ
    have step : Nat.pow 16 (k + 1) = Nat.pow 16 k * 16 := rfl
    rw [hexChars, List.cons_append, hexDigits?, Json.Scanner.hexValue?_lowerHex _ digit]
    simp only
    have same : (value * 16 + n / Nat.pow 16 k % 16) * Nat.pow 16 k + n % Nat.pow 16 k =
        value * Nat.pow 16 (k + 1) + n % Nat.pow 16 (k + 1) := by
      rw [split, step]
      grind
    rw [ih, same]

/-- A character of a text, by its code point where it cannot stand for itself. -/
def escaped (c : Char) : List Char :=
  if isInline c ∧ c ≠ '"' ∧ c ≠ '\\' then [c] else '\\' :: 'U' :: hexChars 8 c.toNat

/-- A written character does not begin as the end of a text does. -/
theorem exists_escaped_eq_cons (c : Char) : ∃ d ds, escaped c = d :: ds ∧ d ≠ '"' := by
  rw [escaped]
  split
  · next plain => exact ⟨c, [], rfl, plain.2.1⟩
  · exact ⟨'\\', _, rfl, by decide⟩

theorem escape?_hexChars (c : Char) (rest : List Char) :
    escape? ('U' :: (hexChars 8 c.toNat ++ rest)) = some (c, rest) := by
  have valid : c.toNat.isValidChar := c.valid
  have small : c.toNat < 0x100000000 := by
    rcases valid with low | ⟨-, high⟩ <;> omega
  have whole : c.toNat % Nat.pow 16 8 = c.toNat := Nat.mod_eq_of_lt small
  simp [escape?, hexDigits?_hexChars, whole, charOf?, valid]

theorem basic?_escaped (rest : List Char) {s : List Char} :
    ∀ {fuel : Nat} {before : List Char}, s.length < fuel →
      basic? fuel before (s.flatMap escaped ++ '"' :: rest) = some (before.reverse ++ s, rest) := by
  induction s with
  | nil =>
    rintro (_ | fuel) before enough
    · cases enough
    · simp [basic?]
  | cons c s ih =>
    rintro (_ | fuel) before enough
    · cases enough
    · have later : basic? fuel (c :: before) (s.flatMap escaped ++ '"' :: rest) =
          some ((c :: before).reverse ++ s, rest) := ih (Nat.lt_of_succ_lt_succ enough)
      rw [List.flatMap_cons, escaped, List.append_assoc]
      split
      · next plain =>
        simp only [List.singleton_append, basic?, if_neg plain.2.1, if_neg plain.2.2,
          if_pos plain.1, later]
        simp
      · simp only [List.cons_append, basic?, escape?_hexChars, Option.bind_eq_bind,
          Option.bind_some, later]
        simp

/-- Pieces of which none is empty are together as long as there are pieces. -/
theorem length_le_length_flatMap {α : Type} {f : α → List Char} {pieces : List α}
    (filled : ∀ a ∈ pieces, f a ≠ []) : pieces.length ≤ (pieces.flatMap f).length := by
  induction pieces with
  | nil => exact Nat.le_refl 0
  | cons a pieces ih =>
    obtain ⟨first, later⟩ := List.forall_mem_cons.1 filled
    have := ih later
    have := List.length_pos_iff.2 first
    rw [List.flatMap_cons, List.length_append, List.length_cons]
    omega

/-- **A written text is read back.** -/
theorem string?_escaped (s rest : List Char) :
    string? ('"' :: (s.flatMap escaped ++ '"' :: '\n' :: rest)) = some (s, '\n' :: rest) := by
  have enough : s.length < (s.flatMap escaped ++ '"' :: '\n' :: rest).length + 1 := by
    have filled (c : Char) (_ : c ∈ s) : escaped c ≠ [] := by
      obtain ⟨d, ds, shape, -⟩ := exists_escaped_eq_cons c
      exact shape ▸ List.cons_ne_nil d ds
    have := length_le_length_flatMap filled
    rw [List.length_append]
    omega
  unfold string?
  split
  · next r same =>
    -- three quotes in a row would start a text on several lines
    cases s with
    | nil => cases same
    | cons c s =>
      obtain ⟨d, ds, shape, other⟩ := exists_escaped_eq_cons c
      rw [List.flatMap_cons, shape, List.cons_append, List.cons_append] at same
      exact absurd (List.cons.inj (List.cons.inj same).2).1 other
  · next same => cases same
  · rw [inlineString?, basic?_escaped _ enough]
    rfl

/-! ## Written numbers -/

theorem grouped?_eq {ds : List Char} (some_digit : ds ≠ []) (digits : ∀ c ∈ ds, isDigit c = true) :
    grouped? isDigit ds = some ds := by
  induction ds with
  | nil => exact absurd rfl some_digit
  | cons d ds ih =>
    obtain ⟨first, others⟩ := List.forall_mem_cons.1 digits
    cases ds with
    | nil => simp [grouped?, first]
    | cons e ds =>
      have not_line : e ≠ '_' := by
        rintro rfl
        exact absurd (others '_' List.mem_cons_self) (by decide)
      rw [grouped?, if_pos first, ih (List.cons_ne_nil e ds) others, Option.map_some]
      · simp
      · rintro r ⟨⟩
        exact not_line rfl

theorem numberOf_eq {ds : List Char} (digits : ∀ c ∈ ds, isDigit c = true) :
    numberOf 10 ds = NumberText.digitsValue ds := by
  refine List.foldl_ext _ _ 0 fun n d hd => ?_
  have digit := digits d hd
  rw [isDigit, Bool.and_eq_true, decide_eq_true_eq, decide_eq_true_eq] at digit
  rw [Json.Scanner.hexValue?, if_pos digit, Option.getD_some]

theorem integer?_toDigits (n : Nat) : integer? (Nat.toDigits 10 n) = some (n : Int) := by
  have all (c : Char) (hc : c ∈ Nat.toDigits 10 n) : isDigit c = true :=
    NumberText.isDigit_of_mem_toDigits hc
  have value : numberOf 10 (Nat.toDigits 10 n) = n := by
    rw [numberOf_eq all, NumberText.digitsValue_toDigits]
  have grouped := grouped?_eq Nat.toDigits_ne_nil all
  obtain ⟨d, ds, shape, digits, alone⟩ := NumberText.exists_toDigits_eq_cons n
  rw [shape] at value grouped ⊢
  have first : isDigit d = true := digits d List.mem_cons_self
  have unsigned : signed (d :: ds) = (false, d :: ds) := by
    rw [signed]
    · rintro r ⟨⟩
      exact absurd first (by decide)
    · rintro r ⟨⟩
      exact absurd first (by decide)
  have decimal : decimal? (d :: ds) = some (d :: ds) := by
    rw [decimal?, grouped]
    split
    · next same =>
      obtain ⟨⟩ := same
      exact absurd (alone rfl) (List.cons_ne_nil _ _)
    · rfl
  have no_base (x : Char) (r : List Char) : d :: ds ≠ '0' :: x :: r := by
    rintro ⟨⟩
    exact absurd (alone rfl) (List.cons_ne_nil _ _)
  unfold integer?
  split
  · next same => exact absurd same (no_base _ _)
  · next same => exact absurd same (no_base _ _)
  · next same => exact absurd same (no_base _ _)
  · simp [unsigned, decimal, value]

theorem bare?_toDigits {n : Nat} (fits : n ≤ 0xFFFFFFFFFFFFFFFF) :
    bare? (Nat.toDigits 10 n) = some (.integer n) := by
  have no_word {word : List Char} (c : Char) (hc : c ∈ word) (other : isDigit c = false) :
      Nat.toDigits 10 n ≠ word := by
    rintro rfl
    exact Bool.false_ne_true (other.symm.trans (NumberText.isDigit_of_mem_toDigits hc))
  have small : fitsInteger n = true := by
    rw [fitsInteger, Bool.and_eq_true, decide_eq_true_eq, decide_eq_true_eq]
    omega
  rw [bare?, if_neg (no_word 't' (by decide) rfl), if_neg (no_word 'f' (by decide) rfl),
    integer?_toDigits]
  exact if_pos small

end TomlScalar

/-! ## Written lines -/

namespace TomlTree

/-- A value on one line after its key. -/
inductive Plain where
  | text (s : String)
  | number (n : Nat)
  | truth (b : Bool)
deriving DecidableEq, Repr

namespace Plain

/-- The value as it is read. -/
def tree : Plain → TomlTree
  | text s => .scalar (.string s)
  | number n => .scalar (.integer n)
  | truth b => .scalar (.boolean b)

/-- The value as it is written. -/
def chars : Plain → List Char
  | text s => '"' :: (s.toList.flatMap TomlScalar.escaped ++ ['"'])
  | number n => Nat.toDigits 10 n
  | truth b => (toString b).toList

/-- Does a number fit 64 bits? -/
def Fits : Plain → Prop
  | number n => n ≤ 0xFFFFFFFFFFFFFFFF
  | _ => True

end Plain

theorem Plain.exists_chars_eq_cons (v : Plain) :
    ∃ d ds, v.chars = d :: ds ∧ d ≠ ' ' ∧ d ≠ '\t' := by
  cases v with
  | text s => exact ⟨'"', _, rfl, by decide, by decide⟩
  | number n =>
    obtain ⟨d, ds, shape, digits, -⟩ := NumberText.exists_toDigits_eq_cons n
    have first := digits d List.mem_cons_self
    refine ⟨d, ds, shape, ?_, ?_⟩ <;> rintro rfl <;> exact absurd first (by decide)
  | truth b =>
    cases b with
    | false => exact ⟨'f', _, rfl, by decide, by decide⟩
    | true => exact ⟨'t', _, rfl, by decide, by decide⟩

theorem bare?_of_stop {cs : List Char} {s : TomlScalar} (rest : List Char)
    (inside : ∀ c ∈ cs, isBareChar c = true) (read : TomlScalar.bare? cs = some s) :
    bare? (cs ++ '\n' :: rest) = some (s, '\n' :: rest) := by
  have cut : (cs ++ '\n' :: rest).takeWhile isBareChar = cs := by
    rw [List.takeWhile_append_of_pos inside]
    simp [isBareChar, isBareKeyChar]
  simp [bare?, cut, read]

/-- What begins neither with a bracket nor with a quote is a scalar without quotes. -/
theorem value?_eq_bare {d : Char} (ds : List Char) (plain : d ∉ ['[', '{', '"', '\''])
    (limit fuel : Nat) : value? (limit + 1) (fuel + 1) (d :: ds) =
      (bare? (d :: ds)).map fun r => (.scalar r.1, r.2) := by
  simp only [List.mem_cons, List.not_mem_nil, or_false, not_or] at plain
  obtain ⟨no_array, no_table, no_text, no_literal⟩ := plain
  unfold value?
  split
  · next same => exact absurd (List.cons.inj same).1 no_array
  · next same => exact absurd (List.cons.inj same).1 no_table
  · next same _ _ =>
    cases same
    rw [if_neg (not_or.2 ⟨no_text, no_literal⟩)]
  · next same => cases same

/-- **A written value is read back.** -/
theorem value?_plain {v : Plain} (fits : v.Fits) (limit fuel : Nat) (rest : List Char) :
    value? (limit + 1) (fuel + 1) (v.chars ++ '\n' :: rest) = some (v.tree, '\n' :: rest) := by
  cases v with
  | text s =>
    have read := TomlScalar.string?_escaped s.toList rest
    simp [Plain.chars, value?, read, Plain.tree]
  | number n =>
    have inside (c : Char) (hc : c ∈ Nat.toDigits 10 n) : isBareChar c = true := by
      have digit : ('0' ≤ c && c ≤ '9') = true := NumberText.isDigit_of_mem_toDigits hc
      simp only [isBareChar, isBareKeyChar, digit, Bool.or_true, Bool.true_or]
    have read := bare?_of_stop rest inside (TomlScalar.bare?_toDigits fits)
    obtain ⟨d, ds, shape, digits, -⟩ := NumberText.exists_toDigits_eq_cons n
    have first := digits d List.mem_cons_self
    have plain : d ∉ ['[', '{', '"', '\''] := fun other => by
      have none : ∀ c ∈ ['[', '{', '"', '\''], NumberText.isDigit c = false := by decide
      exact Bool.false_ne_true ((none d other).symm.trans first)
    rw [shape, List.cons_append] at read
    rw [Plain.chars, shape, List.cons_append, value?_eq_bare _ plain, read]
    rfl
  | truth b => cases b <;> rfl

/-! ## Written documents -/

/-- A key that needs no quotes. -/
def IsBareKey (key : String) : Prop := key ≠ "" ∧ ∀ c ∈ key.toList, isBareKeyChar c = true

/-- A line that gives a key a value. -/
def line (l : String × Plain) : List Char :=
  l.1.toList ++ ' ' :: '=' :: ' ' :: (l.2.chars ++ ['\n'])

theorem line_ne_nil (l : String × Plain) : line l ≠ [] := by
  simp [line]

/-- The document of a list of keys and values. -/
def document (lines : List (String × Plain)) : List Char := lines.flatMap line

theorem IsBareKey.exists_eq_cons {key : String} (bare : IsBareKey key) :
    ∃ d ds, key.toList = d :: ds ∧ isBareKeyChar d = true := by
  have some_char : key.toList ≠ [] := fun none => bare.1 (String.toList_inj.1 (none.trans rfl))
  obtain ⟨d, ds, shape⟩ := List.exists_cons_of_ne_nil some_char
  exact ⟨d, ds, shape, bare.2 d (shape ▸ List.mem_cons_self)⟩

/-- A line begins with its key: nothing in front of it is passed over. -/
theorem skip_of_bareKeyChar {d : Char} (bare : isBareKeyChar d = true) (ds : List Char) :
    skipBlanks (d :: ds) = d :: ds ∧ skipComment (d :: ds) = d :: ds ∧
      TomlScalar.lineBreak? (d :: ds) = none := by
  have other {c : Char} (hc : isBareKeyChar c = false) : d ≠ c := by
    rintro rfl
    exact Bool.false_ne_true (hc.symm.trans bare)
  refine ⟨?_, ?_, ?_⟩
  · simp [skipBlanks, other (c := ' ') rfl, other (c := '\t') rfl]
  · rw [skipComment]
    rintro r ⟨⟩
    exact other (c := '#') rfl rfl
  · rw [TomlScalar.lineBreak?]
    · rintro r ⟨⟩
      exact other (c := '\n') rfl rfl
    · rintro r ⟨⟩
      exact other (c := '\r') rfl rfl

theorem key?_line {key : String} (bare : IsBareKey key) (rest : List Char) :
    key? (key.toList ++ ' ' :: '=' :: rest) = some ([key], '=' :: rest) := by
  have cut : (key.toList ++ ' ' :: '=' :: rest).takeWhile isBareKeyChar = key.toList := by
    rw [List.takeWhile_append_of_pos bare.2]
    simp [isBareKeyChar]
  have some_char : key.toList ≠ [] := fun none => bare.1 (String.toList_inj.1 (none.trans rfl))
  have unblank : skipBlanks (key.toList ++ ' ' :: '=' :: rest) =
      key.toList ++ ' ' :: '=' :: rest := by
    obtain ⟨d, ds, shape, bare_char⟩ := bare.exists_eq_cons
    rw [shape]
    exact (skip_of_bareKeyChar bare_char _).1
  have read : simpleKey? (key.toList ++ ' ' :: '=' :: rest) = some (key, ' ' :: '=' :: rest) := by
    simp [simpleKey?, cut, some_char]
  rw [key?, nestingLimit, keyParts?, unblank, read]
  rfl

theorem entry?_line {l : String × Plain} (bare : IsBareKey l.1) (fits : l.2.Fits) {es : Entries}
    (new : l.1 ∉ keys es) (fuel : Nat) (rest : List Char) :
    entry? (fuel + 1) ⟨es, []⟩ (line l ++ rest) =
      some (⟨es ++ [(l.1, l.2.tree)], []⟩, '\n' :: rest) := by
  obtain ⟨key, v⟩ := l
  have shape : line (key, v) ++ rest =
      key.toList ++ ' ' :: '=' :: ' ' :: (v.chars ++ '\n' :: rest) := by simp [line]
  have unblank : skipBlanks (' ' :: (v.chars ++ '\n' :: rest)) = v.chars ++ '\n' :: rest := by
    obtain ⟨d, ds, first, space, tab⟩ := v.exists_chars_eq_cons
    simp [skipBlanks, first, space, tab]
  have no_header (r : List Char) : key.toList ++ ' ' :: '=' :: ' ' :: (v.chars ++ '\n' :: rest) ≠
      '[' :: r := by
    obtain ⟨d, ds, first, bare_char⟩ := bare.exists_eq_cons
    rw [first]
    rintro ⟨⟩
    exact absurd bare_char (by decide)
  have absent : get? es key = none := get?_eq_none_iff.2 new
  have read_key := key?_line bare (' ' :: (v.chars ++ '\n' :: rest))
  rw [shape]
  unfold entry?
  split
  · next same => exact absurd same (no_header _)
  · next same => exact absurd same (no_header _)
  · rw [read_key]
    simp [unblank, value?_plain fits, nestingLimit, insertAt?, insert?, insertBelow?, absent,
      put_of_not_mem new]

theorem exists_line_eq_cons {l : String × Plain} (bare : IsBareKey l.1) :
    ∃ d ds, line l = d :: ds ∧ isBareKeyChar d = true := by
  obtain ⟨d, ds, shape, bare_char⟩ := bare.exists_eq_cons
  exact ⟨d, _, by rw [line, shape]; rfl, bare_char⟩

theorem skipLines_line {l : String × Plain} (bare : IsBareKey l.1) (fuel : Nat) (rest : List Char) :
    skipLines (fuel + 1) (line l ++ rest) = line l ++ rest := by
  obtain ⟨d, ds, shape, bare_char⟩ := exists_line_eq_cons bare
  obtain ⟨unblank, uncommented, unbroken⟩ := skip_of_bareKeyChar bare_char (ds ++ rest)
  rw [shape, List.cons_append, skipLines, unblank, uncommented, unbroken]

/-- The table of a list of keys and values. -/
def entries (lines : List (String × Plain)) : Entries := lines.map fun l => (l.1, l.2.tree)

theorem keys_entries (lines : List (String × Plain)) :
    keys (entries lines) = lines.map Prod.fst := by
  rw [keys, entries, List.map_map]
  rfl

/-- The lines of a document are read one by one. -/
theorem lines?_document {lines : List (String × Plain)} (bare : ∀ l ∈ lines, IsBareKey l.1)
    (fits : ∀ l ∈ lines, l.2.Fits) {es : Entries}
    (apart : (keys es ++ lines.map Prod.fst).Nodup) {fuel : Nat} (enough : lines.length < fuel) :
    lines? fuel ⟨es, []⟩ (document lines) = some ⟨es ++ entries lines, []⟩ := by
  induction lines generalizing es fuel with
  | nil =>
    obtain ⟨fuel, rfl⟩ := Nat.exists_eq_add_of_lt enough
    simp [lines?, document, entries, skipLines, skipBlanks, skipComment, TomlScalar.lineBreak?]
  | cons l lines ih =>
    obtain ⟨fuel, rfl⟩ : ∃ n, fuel = n + 1 := Nat.exists_eq_add_one.2 (Nat.zero_lt_of_lt enough)
    obtain ⟨bare_key, bare⟩ := List.forall_mem_cons.1 bare
    obtain ⟨fits_value, fits⟩ := List.forall_mem_cons.1 fits
    have new : l.1 ∉ keys es := fun there =>
      (List.nodup_append.1 apart).2.2 l.1 there l.1 List.mem_cons_self rfl
    have apart : (keys (es ++ [(l.1, l.2.tree)]) ++ lines.map Prod.fst).Nodup := by
      simpa [keys] using apart
    have later := ih bare fits apart (Nat.lt_of_succ_lt_succ enough)
    have ended : endOfLine? ('\n' :: document lines) = some (document lines) := rfl
    have entry := entry?_line bare_key fits_value new fuel (document lines)
    rw [document, List.flatMap_cons, ← document, lines?, skipLines_line bare_key]
    split
    · next none => exact absurd (List.append_eq_nil_iff.1 none).1 (line_ne_nil l)
    · simp [entry, ended, later, entries]

/-- **The document of different keys with plain values is read as these.** -/
theorem parse?_document {lines : List (String × Plain)} (bare : ∀ l ∈ lines, IsBareKey l.1)
    (fits : ∀ l ∈ lines, l.2.Fits) (apart : (lines.map Prod.fst).Nodup) :
    parse? (document lines) = some (entries lines) := by
  have unmarked : skipMark (document lines) = document lines := by
    cases lines with
    | nil => rfl
    | cons l lines =>
      obtain ⟨d, ds, shape, bare_char⟩ := exists_line_eq_cons (bare l List.mem_cons_self)
      rw [document, List.flatMap_cons, shape, List.cons_append, skipMark]
      rintro r ⟨⟩
      exact absurd bare_char (by decide)
  have enough : lines.length < (document lines).length + 1 :=
    Nat.lt_succ_of_le (TomlScalar.length_le_length_flatMap fun l _ => line_ne_nil l)
  have apart : (keys [] ++ lines.map Prod.fst).Nodup := apart
  have read := lines?_document bare fits apart enough
  rw [parse?, unmarked]
  exact congrArg (Option.map (·.entries)) read

end TomlTree
end ProxyFeed

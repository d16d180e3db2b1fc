import ProxyFeed.Proofs.Json.Value
import ProxyFeed.Proofs.RelaxedJson.Written

/-!
# Standard JSON read as relaxed JSON

The reader of relaxed JSON knows more blanks, comments, numbers, names and escapes than standard
JSON has.  A text of a value in standard JSON has none of these, and the reader finds the tree of
that value in it.  It takes no more fuel than the text has characters.

## What is here

* `LooseText.Ends` — what can stand after a value.
* `LooseText.number?_text` — an integer is read up to its end.
* `Json.relaxed` — a value as the tree of its text.
* `RelaxedJson.value?_compactChars` — a value is read up to its end.
* `RelaxedJson.parse?_compact` — a whole text is read.
-/

set_option autoImplicit false
namespace ProxyFeed

namespace LooseText

/-! ## Leaves

A number or a literal ends only at the character after it. -/

/-- What can stand after a value in a text without spaces. -/
def Ends (rest : LooseText) : Prop :=
  rest = [] ∨ ∃ c ∈ [',', ']', '}'], ∃ more, rest = .char c :: more

theorem span_of_ends {p : Char → Bool} (stops : ∀ c ∈ [',', ']', '}'], p c = false)
    {rest : LooseText} (ends : Ends rest) : span p rest = ([], rest) := by
  obtain rfl | ⟨c, hc, more, rfl⟩ := ends
  · rfl
  · rw [span, stops c hc]
    rfl

theorem span_append {p : Char → Bool} {cs : List Char} (all : ∀ c ∈ cs, p c = true)
    {rest : LooseText} (stop : span p rest = ([], rest)) :
    span p (ofChars cs ++ rest) = (cs, rest) := by
  induction cs with
  | nil => exact stop
  | cons c cs ih =>
    rw [ofChars_cons, List.cons_append, span, all c (by simp), ih fun d hd => all d (by simp [hd])]
    rfl

theorem skipBlank_of_not_blank {c : Char} (blank : isBlank c = false) (slash : c ≠ '/')
    (rest : LooseText) : skipBlank (.char c :: rest) = .char c :: rest := by
  have none_skipped : afterBlank? (.char c :: rest) = none := by
    unfold afterBlank?
    split
    · next opening => cases opening; exact absurd rfl slash
    · next opening => cases opening; exact absurd rfl slash
    · next same =>
      cases same
      rw [blank]
      rfl
    · rfl
  rw [skipBlank, none_skipped]

variable {d : Char} {ds : List Char}

/-- Digits without a zero too many are a number by themselves. -/
theorem decimal?_digits (digits : ∀ c ∈ d :: ds, NumberText.isDigit c = true)
    (zero : d = '0' → ds = []) {rest : LooseText} (ends : Ends rest) :
    decimal? (ofChars (d :: ds) ++ rest) = some (d :: ds, rest) := by
  have whole := span_append digits (span_of_ends (by decide) ends)
  rw [decimal?, whole]
  obtain rfl | ⟨c, hc, more, rfl⟩ := ends
  · simpa [exponent?] using zero
  · simp only [List.mem_cons, List.not_mem_nil, or_false] at hc
    rcases hc with rfl | rfl | rfl <;> simpa [exponent?] using zero

/-- Decimal digits are neither letters nor the mark of a hexadecimal number. -/
theorem ne_of_isDigit {c e : Char} (digit : NumberText.isDigit c = true)
    (other : NumberText.isDigit e = false) : c ≠ e := by
  rintro rfl
  cases digit.symm.trans other

theorem toLower_of_isDigit {c : Char} (digit : NumberText.isDigit c = true) : c.toLower = c := by
  have range : ('0' ≤ c ∧ c ≤ '9') := by simpa [NumberText.isDigit] using digit
  have below : ¬ 'A' ≤ c := fun upper =>
    absurd (Char.le_trans upper range.2) (by decide)
  exact dif_neg fun upper => below upper.1

/-- No name begins with a digit. -/
theorem lower_ne_of_isDigit (digit : NumberText.isDigit d = true) (name : String)
    (letter : ∀ c ∈ name.toList.head?, NumberText.isDigit c = false) (cs : List Char) :
    lower (d :: cs) ≠ name := by
  intro same
  have chars : (d :: cs).map Char.toLower = name.toList := by
    rw [← same, lower, String.toList_ofList]
  have first := letter d (by rw [← chars, List.map_cons, toLower_of_isDigit digit]; rfl)
  cases digit.symm.trans first

/-- The letters and digits that a number begins with are no name. -/
theorem word_eq_cons (digit : NumberText.isDigit d = true) (cs : LooseText) :
    ∃ letters rest, word (.char d :: cs) = (d :: letters, rest) := by
  have plain : isAlphanumeric d = true := by simp [isAlphanumeric, digit]
  exact ⟨_, _, by rw [word, span, if_pos plain]⟩

theorem literal?_of_isDigit (digit : NumberText.isDigit d = true) (cs : List Char) :
    literal? (d :: cs) = none := by
  have name (n : String) (letter : ∀ c ∈ n.toList.head?, NumberText.isDigit c = false) :=
    lower_ne_of_isDigit digit n letter cs
  have word {letters : List Char} (letter : ∀ c ∈ letters.head?, NumberText.isDigit c = false) :
      d :: cs ≠ letters := by
    rintro rfl
    cases digit.symm.trans (letter d rfl)
  rw [literal?, if_neg (word (by decide)), if_neg (word (by decide)), if_neg (word (by decide)),
    if_neg (not_or.2 ⟨name "inf" (by decide), name "infinity" (by decide)⟩), if_neg]
  simp [name "nan" (by decide), name "qnan" (by decide), name "snan" (by decide)]

theorem unsigned?_digits (signed : Bool) (digits : ∀ c ∈ d :: ds, NumberText.isDigit c = true)
    (zero : d = '0' → ds = []) {rest : LooseText} (ends : Ends rest) :
    unsigned? signed (ofChars (d :: ds) ++ rest) = some (.num (d :: ds) false, rest) := by
  have first := digits d List.mem_cons_self
  have hexadecimal : ∀ x more, ofChars ds ++ rest = .char x :: more → ¬(x = 'x' ∨ x = 'X') := by
    intro x more shape
    cases ds with
    | nil =>
      obtain rfl | ⟨c, hc, _, rfl⟩ := ends
      · cases shape
      · cases shape
        exact (by decide : ∀ x ∈ [',', ']', '}'], ¬(x = 'x' ∨ x = 'X')) x hc
    | cons e es =>
      cases shape
      have digit := digits x (by simp)
      exact not_or.2 ⟨ne_of_isDigit digit (by decide), ne_of_isDigit digit (by decide)⟩
  unfold unsigned?
  extract_lets hex? named
  have no_hex : hex? = none := by
    simp only [hex?]
    split
    · next x more shape =>
      obtain ⟨-, tail⟩ := List.cons.inj shape
      rw [if_neg fun both => hexadecimal x more tail both.1]
    · rfl
  have no_name : ∀ count, named (count + 1) = false := by
    intro count
    obtain ⟨letters, after, shape⟩ := word_eq_cons first ((ofChars ds ++ rest).take count)
    have inf := lower_ne_of_isDigit first "inf" (by decide) letters
    have infinity := lower_ne_of_isDigit first "infinity" (by decide) letters
    simp only [named, ofChars_cons, List.cons_append, List.take_succ_cons, shape]
    simp [inf, infinity]
  rw [no_hex, no_name 7, no_name 2, decimal?_digits digits zero ends]
  simp

/-- **An integer is read up to its end.** -/
theorem number?_text {n : Json.Number} (fits : n.Fits) {rest : LooseText} (ends : Ends rest) :
    number? (ofChars n.text ++ rest) = some (.num n.text false, rest) := by
  cases n with
  | float => exact fits.elim
  | int n =>
    obtain ⟨d, ds, shape, digits, zero⟩ := NumberText.exists_toDigits_eq_cons n.natAbs
    have read signed := unsigned?_digits signed digits zero ends
    rw [Json.Number.text_int, shape]
    split
    · rw [ofChars_cons, List.cons_append, number?, read]
      rfl
    · have first := digits d List.mem_cons_self
      have plus : d ≠ '+' := ne_of_isDigit first (by decide)
      have minus : d ≠ '-' := ne_of_isDigit first (by decide)
      rw [ofChars_cons, List.cons_append] at read ⊢
      rw [number?, read]
      · rintro more ⟨⟩
        exact plus rfl
      · rintro more ⟨⟩
        exact minus rfl

end LooseText

open LooseText (Ends ofChars skipBlank)

namespace Json

mutual

/-- A value as the tree of its text in relaxed JSON. -/
def relaxed : Json → RelaxedJson
  | .null => .null
  | .bool b => .bool b
  | .num n => .num n.text false
  | .str s => .str (.written s)
  | .arr items => .arr (relaxedItems items)
  | .obj ms => .obj (relaxedMembers ms)

/-- The items of an array as trees. -/
def relaxedItems : List Json → List RelaxedJson
  | [] => []
  | item :: rest => item.relaxed :: relaxedItems rest

/-- The members of an object as trees. -/
def relaxedMembers : List (String × Json) → List (LooseText × RelaxedJson)
  | [] => []
  | (k, v) :: rest => (.written k, v.relaxed) :: relaxedMembers rest

end

end Json

namespace RelaxedJson

open Json (compactMoreItems compactMoreMembers relaxedItems relaxedMembers)

/-- A value that is neither in quotes nor in brackets is a literal or a number. -/
theorem value?_scalar {c : Char} (plain : c ∉ ['[', '{', '"', '\'']) (limit fuel : Nat)
    (rest : LooseText) : value? limit (fuel + 1) (.char c :: rest) =
      ((LooseText.literal? (LooseText.word (.char c :: rest)).1).map fun v =>
        (v, (LooseText.word (.char c :: rest)).2)).or (LooseText.number? (.char c :: rest)) := by
  simp only [List.mem_cons, List.not_mem_nil, or_false, not_or] at plain
  obtain ⟨bracket, brace, double, single⟩ := plain
  cases literal : LooseText.literal? (LooseText.word (.char c :: rest)).1 with
  | none => cases limit <;> simp [value?, bracket, brace, double, single, literal]
  | some v => cases limit <;> simp [value?, bracket, brace, double, single, literal]

/-- **A literal is read up to its end.** -/
theorem value?_word (c : Char) (letters : List Char) {v : RelaxedJson}
    (literal : LooseText.literal? (c :: letters) = some v)
    (alphanumeric : ∀ d ∈ c :: letters, LooseText.isAlphanumeric d = true)
    (limit fuel : Nat) {rest : LooseText} (ends : Ends rest) :
    value? limit (fuel + 1) (ofChars (c :: letters) ++ rest) = some (v, rest) := by
  have word := LooseText.span_append alphanumeric (LooseText.span_of_ends (by decide) ends)
  have plain : c ∉ ['[', '{', '"', '\''] := by
    have first := alphanumeric c List.mem_cons_self
    intro mark
    have others : ∀ c ∈ ['[', '{', '"', '\''], LooseText.isAlphanumeric c = false := by decide
    cases first.symm.trans (others c mark)
  rw [LooseText.ofChars_cons, List.cons_append] at word ⊢
  rw [value?_scalar plain, LooseText.word, word, literal]
  rfl

/-- **An integer is a value.** -/
theorem value?_number {n : Json.Number} (fits : n.Fits) (limit fuel : Nat) {rest : LooseText}
    (ends : Ends rest) :
    value? limit (fuel + 1) (ofChars n.text ++ rest) = some (.num n.text false, rest) := by
  have read := LooseText.number?_text fits ends
  cases n with
  | float => exact fits.elim
  | int n =>
    obtain ⟨d, ds, shape, digits, -⟩ := NumberText.exists_toDigits_eq_cons n.natAbs
    have first := digits d List.mem_cons_self
    have no_mark : ∀ c ∈ ['[', '{', '"', '\''], NumberText.isDigit c = false := by decide
    rw [Json.Number.text_int, shape] at read ⊢
    by_cases negative : n < 0
    · rw [if_pos negative, LooseText.ofChars_cons, List.cons_append] at read ⊢
      rw [value?_scalar (by decide), read]
      rfl
    · obtain ⟨letters, after, word⟩ := LooseText.word_eq_cons first (ofChars ds ++ rest)
      rw [if_neg negative, LooseText.ofChars_cons, List.cons_append] at read ⊢
      rw [value?_scalar fun mark => LooseText.ne_of_isDigit first (no_mark d mark) rfl, word,
        LooseText.literal?_of_isDigit first, read]
      rfl

/-! ## Containers

The reader of an array and the one of an object do the same thing after each value, so that is given
a name, and the text behind a value is followed from there. -/

/-- What the reader of an array does after an item. -/
def afterItem? (limit fuel : Nat) (before : List RelaxedJson) (v : RelaxedJson) (cs : LooseText) :
    Option (List RelaxedJson × LooseText) :=
  match skipBlank cs with
  | .char ',' :: rest => items? limit fuel (v :: before) (skipBlank rest)
  | .char ']' :: rest => some ((v :: before).reverse, rest)
  | _ => none

/-- What the reader of an object does after a member. -/
def afterMember? (limit fuel : Nat) (before : List (LooseText × RelaxedJson)) (key : LooseText)
    (v : RelaxedJson) (cs : LooseText) : Option (List (LooseText × RelaxedJson) × LooseText) :=
  match skipBlank cs with
  | .char ',' :: rest => members? limit fuel ((key, v) :: before) (skipBlank rest)
  | .char '}' :: rest => some (((key, v) :: before).reverse, rest)
  | _ => none

theorem items?_of_value {c : Char} (bracket : c ≠ ']') (limit fuel : Nat)
    (before : List RelaxedJson) (cs : LooseText) :
    items? limit (fuel + 1) before (.char c :: cs) =
      (value? limit fuel (.char c :: cs)).bind fun r => afterItem? limit fuel before r.1 r.2 := by
  rw [items?]
  · rfl
  · rintro rest ⟨⟩
    exact bracket rfl

theorem ofChars_quoted (s : String) (rest : LooseText) :
    ofChars (Json.quoted s) ++ rest = .char '"' :: (LooseText.written s ++ .char '"' :: rest) := by
  rw [Json.quoted, LooseText.written]
  simp

theorem members?_of_value (limit fuel : Nat) (before : List (LooseText × RelaxedJson))
    (key : String) (cs : LooseText) :
    members? limit (fuel + 1) before (ofChars (Json.quoted key) ++ .char ':' :: cs) =
      (value? limit fuel (skipBlank cs)).bind fun r =>
        afterMember? limit fuel before (LooseText.written key) r.1 r.2 := by
  have colon : skipBlank (.char ':' :: cs) = .char ':' :: cs :=
    LooseText.skipBlank_of_not_blank (by decide) (by decide) cs
  have read : LooseText.key?
      (.char '"' :: (LooseText.written key ++ .char '"' :: .char ':' :: cs)) =
        some (LooseText.written key, .char ':' :: cs) := by
    rw [LooseText.key?, LooseText.string?_written]
  rw [ofChars_quoted, members?]
  · rw [read]
    simp only [Option.bind_eq_bind, Option.bind_some, colon]
    rfl
  · rintro rest ⟨⟩

/-- What a value begins with is no blank, no comment, and ends no array. -/
def Begins (c : Char) : Prop := LooseText.isBlank c = false ∧ c ≠ '/' ∧ c ≠ ']'

theorem begins_of_isDigit {c : Char} (digit : NumberText.isDigit c = true) : Begins c := by
  refine ⟨?_, LooseText.ne_of_isDigit digit (by decide), LooseText.ne_of_isDigit digit (by decide)⟩
  have range : '0'.toNat ≤ c.toNat ∧ c.toNat ≤ '9'.toNat := by
    simpa [NumberText.isDigit, Char.le_def, UInt32.le_iff_toNat_le] using digit
  have low : 48 ≤ c.toNat := range.1
  have high : c.toNat ≤ 57 := range.2
  simp only [LooseText.isBlank, Bool.or_eq_false_iff, Bool.and_eq_false_iff,
    decide_eq_false_iff_not]
  omega

theorem exists_compactChars_eq_cons {v : Json} (integral : v.Integral) :
    ∃ c cs, v.compactChars = c :: cs ∧ Begins c := by
  cases v with
  | null => exact ⟨'n', _, rfl, by decide, by decide, by decide⟩
  | bool b =>
    cases b with
    | true => exact ⟨'t', _, rfl, by decide, by decide, by decide⟩
    | false => exact ⟨'f', _, rfl, by decide, by decide, by decide⟩
  | str s => exact ⟨'"', _, rfl, by decide, by decide, by decide⟩
  | arr items => exact ⟨'[', _, rfl, by decide, by decide, by decide⟩
  | obj ms => exact ⟨'{', _, rfl, by decide, by decide, by decide⟩
  | num n =>
    cases n with
    | float => exact integral.elim
    | int n =>
      obtain ⟨d, ds, shape, digits, -⟩ := NumberText.exists_toDigits_eq_cons n.natAbs
      rw [Json.compactChars, Json.Number.text_int, shape]
      split
      · exact ⟨'-', _, rfl, by decide, by decide, by decide⟩
      · exact ⟨d, ds, rfl, begins_of_isDigit (digits d List.mem_cons_self)⟩

theorem length_compactChars_pos {v : Json} (integral : v.Integral) : 0 < v.compactChars.length := by
  obtain ⟨c, cs, shape, -⟩ := exists_compactChars_eq_cons integral
  rw [shape]
  exact Nat.succ_pos _

theorem skipBlank_compactChars {v : Json} (integral : v.Integral) (cs : LooseText) :
    skipBlank (ofChars v.compactChars ++ cs) = ofChars v.compactChars ++ cs := by
  obtain ⟨c, chars, shape, blank, slash, -⟩ := exists_compactChars_eq_cons integral
  rw [shape, LooseText.ofChars_cons, List.cons_append,
    LooseText.skipBlank_of_not_blank blank slash]

/-- An item that can be read is read, and what follows it is looked at. -/
theorem items?_of_read {item : Json} (integral : item.Integral) {limit fuel : Nat} {cs : LooseText}
    (read : value? limit fuel (ofChars item.compactChars ++ cs) = some (item.relaxed, cs))
    (before : List RelaxedJson) :
    items? limit (fuel + 1) before (skipBlank (ofChars item.compactChars ++ cs)) =
      afterItem? limit fuel before item.relaxed cs := by
  rw [skipBlank_compactChars integral]
  obtain ⟨c, chars, shape, -, -, bracket⟩ := exists_compactChars_eq_cons integral
  rw [shape, LooseText.ofChars_cons, List.cons_append] at read ⊢
  rw [items?_of_value bracket, read, Option.bind_some]

/-- A member whose value can be read is read, and what follows it is looked at. -/
theorem members?_of_read {v : Json} (integral : v.Integral) {limit fuel : Nat} {cs : LooseText}
    (read : value? limit fuel (ofChars v.compactChars ++ cs) = some (v.relaxed, cs))
    (before : List (LooseText × RelaxedJson)) (key : String) :
    members? limit (fuel + 1) before (skipBlank (ofChars (Json.quoted key) ++
        .char ':' :: (ofChars v.compactChars ++ cs))) =
      afterMember? limit fuel before (LooseText.written key) v.relaxed cs := by
  have quote : skipBlank (ofChars (Json.quoted key) ++
      .char ':' :: (ofChars v.compactChars ++ cs)) =
      ofChars (Json.quoted key) ++ .char ':' :: (ofChars v.compactChars ++ cs) := by
    rw [ofChars_quoted, LooseText.skipBlank_of_not_blank (by decide) (by decide)]
  rw [quote, members?_of_value, skipBlank_compactChars integral, read, Option.bind_some]

theorem ends_compactMoreItems (items : List Json) (rest : LooseText) :
    Ends (ofChars (compactMoreItems items) ++ .char ']' :: rest) := by
  cases items with
  | nil => exact .inr ⟨']', by decide, rest, rfl⟩
  | cons item items => exact .inr ⟨',', by decide, _, rfl⟩

theorem ends_compactMoreMembers (ms : List (String × Json)) (rest : LooseText) :
    Ends (ofChars (compactMoreMembers ms) ++ .char '}' :: rest) := by
  cases ms with
  | nil => exact .inr ⟨'}', by decide, rest, rfl⟩
  | cons m ms => exact .inr ⟨',', by decide, _, rfl⟩

open Json (IntegralItems IntegralMembers depthOfItems depthOfMembers)

mutual

/-- **A text in standard JSON is read as the tree of its value.**  The reader takes no more fuel
than there are characters. -/
theorem value?_compactChars : ∀ (v : Json), v.Integral → ∀ (limit fuel : Nat), v.depth ≤ limit →
    v.compactChars.length ≤ fuel + 1 → ∀ {rest : LooseText}, Ends rest →
      value? limit (fuel + 1) (ofChars v.compactChars ++ rest) = some (v.relaxed, rest)
  | .null, _, limit, fuel, _, _, _, ends =>
    value?_word 'n' ['u', 'l', 'l'] rfl (by decide) limit fuel ends
  | .bool true, _, limit, fuel, _, _, _, ends =>
    value?_word 't' ['r', 'u', 'e'] rfl (by decide) limit fuel ends
  | .bool false, _, limit, fuel, _, _, _, ends =>
    value?_word 'f' ['a', 'l', 's', 'e'] rfl (by decide) limit fuel ends
  | .num n, integral, limit, fuel, _, _, _, ends => value?_number integral limit fuel ends
  | .str s, _, limit, fuel, _, _, rest, _ => by
    have read := LooseText.string?_written s rest
    rw [Json.compactChars, ofChars_quoted]
    cases limit <;> simp [value?, read, Json.relaxed]
  | .arr _, _, 0, _, shallow, _, _, _ => absurd shallow (Nat.not_succ_le_zero _)
  | .obj _, _, 0, _, shallow, _, _, _ => absurd shallow (Nat.not_succ_le_zero _)
  | .arr [], _, limit + 1, fuel, _, enough, rest, _ => by
    obtain ⟨fuel, rfl⟩ : ∃ f, fuel = f + 1 := Nat.exists_eq_succ_of_ne_zero (by
      rintro rfl
      exact absurd enough (by decide))
    rfl
  | .obj [], _, limit + 1, fuel, _, enough, rest, _ => by
    obtain ⟨fuel, rfl⟩ : ∃ f, fuel = f + 1 := Nat.exists_eq_succ_of_ne_zero (by
      rintro rfl
      exact absurd enough (by decide))
    rfl
  | .arr (item :: items), integral, limit + 1, fuel, shallow, enough, rest, _ => by
    obtain ⟨first, others⟩ := Nat.max_le.1 (Nat.le_of_succ_le_succ shallow)
    have shape : ofChars (Json.arr (item :: items)).compactChars ++ rest =
        .char '[' :: (ofChars item.compactChars ++
          (ofChars (compactMoreItems items) ++ .char ']' :: rest)) := by
      simp [Json.compactChars, Json.compactItems]
    have room : item.compactChars.length + (compactMoreItems items).length + 1 ≤ fuel := by
      simp only [Json.compactChars, Json.compactItems, List.length_cons, List.length_append,
        List.length_nil] at enough
      omega
    have some_text := length_compactChars_pos integral.1
    obtain ⟨fuel, rfl⟩ : ∃ f, fuel = f + 2 := ⟨fuel - 2, by omega⟩
    have read := value?_compactChars item integral.1 limit fuel first (by omega)
      (ends_compactMoreItems items rest)
    have more := afterItem?_compactMoreItems items integral.2 limit (fuel + 1) others (by omega) []
      item.relaxed rest
    rw [shape, value?, items?_of_read integral.1 read, more]
    rfl
  | .obj ((k, v) :: ms), integral, limit + 1, fuel, shallow, enough, rest, _ => by
    obtain ⟨first, others⟩ := Nat.max_le.1 (Nat.le_of_succ_le_succ shallow)
    have shape : ofChars (Json.obj ((k, v) :: ms)).compactChars ++ rest =
        .char '{' :: (ofChars (Json.quoted k) ++ .char ':' :: (ofChars v.compactChars ++
          (ofChars (compactMoreMembers ms) ++ .char '}' :: rest))) := by
      simp [Json.compactChars, Json.compactMembers]
    have room : v.compactChars.length + (compactMoreMembers ms).length + 2 ≤ fuel := by
      simp only [Json.compactChars, Json.compactMembers, List.length_cons, List.length_append,
        List.length_nil] at enough
      omega
    obtain ⟨fuel, rfl⟩ : ∃ f, fuel = f + 2 := ⟨fuel - 2, by omega⟩
    have read := value?_compactChars v integral.1 limit fuel first (by omega)
      (ends_compactMoreMembers ms rest)
    have more := afterMember?_compactMoreMembers ms integral.2 limit (fuel + 1) others (by omega)
      [] (LooseText.written k) v.relaxed rest
    rw [shape, value?, members?_of_read integral.1 read, more]
    rfl

/-- The reader of an array follows the text behind an item up to the bracket. -/
theorem afterItem?_compactMoreItems : ∀ (items : List Json), IntegralItems items →
    ∀ (limit fuel : Nat), depthOfItems items ≤ limit → (compactMoreItems items).length ≤ fuel →
    ∀ (before : List RelaxedJson) (v : RelaxedJson) (rest : LooseText),
      afterItem? limit fuel before v (ofChars (compactMoreItems items) ++ .char ']' :: rest) =
        some ((v :: before).reverse ++ relaxedItems items, rest)
  | [], _, limit, fuel, _, _, before, v, rest => by
    rw [relaxedItems, List.append_nil]
    rfl
  | item :: items, integral, limit, fuel, shallow, enough, before, v, rest => by
    obtain ⟨first, others⟩ := Nat.max_le.1 shallow
    have shape : ofChars (compactMoreItems (item :: items)) ++ .char ']' :: rest =
        .char ',' :: (ofChars item.compactChars ++
          (ofChars (compactMoreItems items) ++ .char ']' :: rest)) := by
      simp [compactMoreItems]
    have comma (cs : LooseText) : afterItem? limit fuel before v (.char ',' :: cs) =
        items? limit fuel (v :: before) (skipBlank cs) := rfl
    have room : item.compactChars.length + (compactMoreItems items).length + 1 ≤ fuel := by
      simpa [compactMoreItems] using enough
    have some_text := length_compactChars_pos integral.1
    obtain ⟨fuel, rfl⟩ : ∃ f, fuel = f + 2 := ⟨fuel - 2, by omega⟩
    have read := value?_compactChars item integral.1 limit fuel first (by omega)
      (ends_compactMoreItems items rest)
    have more := afterItem?_compactMoreItems items integral.2 limit (fuel + 1) others (by omega)
      (v :: before) item.relaxed rest
    rw [shape, comma, items?_of_read integral.1 read, more]
    simp [relaxedItems]

/-- The reader of an object follows the text behind a member up to the bracket. -/
theorem afterMember?_compactMoreMembers : ∀ (ms : List (String × Json)), IntegralMembers ms →
    ∀ (limit fuel : Nat), depthOfMembers ms ≤ limit → (compactMoreMembers ms).length ≤ fuel →
    ∀ (before : List (LooseText × RelaxedJson)) (key : LooseText) (v : RelaxedJson)
      (rest : LooseText),
      afterMember? limit fuel before key v (ofChars (compactMoreMembers ms) ++ .char '}' :: rest) =
        some (((key, v) :: before).reverse ++ relaxedMembers ms, rest)
  | [], _, limit, fuel, _, _, before, key, v, rest => by
    rw [relaxedMembers, List.append_nil]
    rfl
  | (k, w) :: ms, integral, limit, fuel, shallow, enough, before, key, v, rest => by
    obtain ⟨first, others⟩ := Nat.max_le.1 shallow
    have shape : ofChars (compactMoreMembers ((k, w) :: ms)) ++ .char '}' :: rest =
        .char ',' :: (ofChars (Json.quoted k) ++ .char ':' :: (ofChars w.compactChars ++
          (ofChars (compactMoreMembers ms) ++ .char '}' :: rest))) := by
      simp [compactMoreMembers]
    have comma (cs : LooseText) : afterMember? limit fuel before key v (.char ',' :: cs) =
        members? limit fuel ((key, v) :: before) (skipBlank cs) := rfl
    have room : w.compactChars.length + (compactMoreMembers ms).length + 2 ≤ fuel := by
      simp only [compactMoreMembers, List.length_cons, List.length_append] at enough
      omega
    obtain ⟨fuel, rfl⟩ : ∃ f, fuel = f + 2 := ⟨fuel - 2, by omega⟩
    have read := value?_compactChars w integral.1 limit fuel first (by omega)
      (ends_compactMoreMembers ms rest)
    have more := afterMember?_compactMoreMembers ms integral.2 limit (fuel + 1) others (by omega)
      ((key, v) :: before) (LooseText.written k) w.relaxed rest
    rw [shape, comma, members?_of_read integral.1 read, more]
    simp [relaxedMembers]

end

end RelaxedJson

/-! ## Whole texts -/

namespace Json

/-- A null character is nowhere in a text with tokens. -/
theorem Scanner.feed_nul (s : Scanner) : feed s '\x00' = none := by
  have between : ∀ done, feedBetween done '\x00' = none := fun _ => rfl
  obtain ⟨mode, done⟩ := s
  cases mode with
  | between | string pieces | escape pieces | unit pieces missing value => rfl
  | number chars =>
    have other : isNumberChar '\x00' = false := rfl
    simp [feed, other, between]
  | word letters =>
    have other : isLetter '\x00' = false := rfl
    simp [feed, other, between]

theorem nul_not_mem_of_tokens? {cs : List Char} {ts : List Token} (h : tokens? cs = some ts) :
    '\x00' ∉ cs := by
  intro there
  obtain ⟨before, after, rfl⟩ := List.append_of_mem there
  obtain ⟨s, scanned, -⟩ := Option.bind_eq_some_iff.1 h
  rw [List.foldlM_append] at scanned
  obtain ⟨s, -, scanned⟩ := Option.bind_eq_some_iff.1 scanned
  rw [List.foldlM_cons, Scanner.feed_nul] at scanned
  cases scanned

end Json

/-- **A text in standard JSON is read as the tree of its value**, if not too many brackets are open
at a time. -/
theorem RelaxedJson.parse?_compact {v : Json} (integral : v.Integral)
    (shallow : v.depth ≤ nestingLimit) :
    parse? (ofChars v.compact.toList) = some v.relaxed := by
  have tokens := Json.tokens?_laidChars .dense v
  rw [← Json.compactChars_eq_laidChars] at tokens
  have whole := LooseText.takeWhile_ofChars (Json.nul_not_mem_of_tokens? tokens)
  have blanks := skipBlank_compactChars integral []
  have read := value?_compactChars v integral nestingLimit (ofChars v.compactChars).length shallow
    (by simp [ofChars]) (.inl rfl)
  rw [List.append_nil] at blanks read
  have nothing_left : skipBlank [] = [] := rfl
  rw [Json.compact, String.toList_ofList, parse?, whole]
  simp only [blanks, read, Option.bind_eq_bind, Option.bind_some, nothing_left, if_true]

end ProxyFeed

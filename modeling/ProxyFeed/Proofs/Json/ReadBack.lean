import ProxyFeed.Json.Raw
import ProxyFeed.Json.Writer
import ProxyFeed.Proofs.Json.WrittenNumber

/-!
# Written JSON reads back

What `Json.pretty` and `Json.compact` write is read as a tree of the shape of the value they were
given.  It is the tree of that value, but for its numbers: those that are integers of 64 bits,
signed or unsigned, are read as they were, and a float can come back as a neighbour.

## What is here

* `Json.written` — the tree that a written value is read as.
* `Json.Integral` — every number of a value is an integer of 64 bits; `Json.written_eq_raw` says
  that such a value is read as its own tree.
* `Json.tokens` — the tokens a value is written with, whatever stands between them.
* `Json.Layout` — the blanks between the tokens, which is all that the writers differ in.
* `Json.scan_laid` — the scanner finds the tokens in a written text.
* `RawJson.feed_tokens` — and the assembly makes them into the tree.
* `RawJson.parse?_laidChars` — the two together; `RawJson.parse?_pretty` and
  `RawJson.parse?_compact` are the case of integers.

A number or a literal ends only at the character after it, so the scanner is followed up to a
character that can follow a value; `Json.Scanner.IsBreak` lists those.
-/

set_option autoImplicit false
namespace ProxyFeed

/-! A condition on some characters is decided for those.  There are instances that go through all
characters, so these come first. -/

instance (priority := 2000) decidableForallListed (p : Char → Prop) [DecidablePred p]
    (cs : List Char) : Decidable (∀ c ∈ cs, p c) :=
  List.decidableBAll p cs

instance (priority := 2000) decidableForallOptional (p : Char → Prop) [DecidablePred p]
    (o : Option Char) : Decidable (∀ c ∈ o, p c) :=
  Option.decidableForallMem o

namespace Json

/-! ## The scanner

Each leaf is followed through the scanner by itself.  A string ends with its quote; numbers and
literals are still open after their last character. -/

namespace Scanner

/-- The characters that can follow a value. -/
def IsBreak (c : Char) : Prop := c = ',' ∨ c = ']' ∨ c = '}' ∨ c = '\n'

theorem feed_number_break {c : Char} (hc : IsBreak c) {chars : List Char} {t : Token}
    (ht : numberToken? chars = some t) (done : List Token) :
    feed ⟨.number chars, done⟩ c = feed ⟨.between, t :: done⟩ c := by
  have h : isNumberChar c = false := by rcases hc with rfl | rfl | rfl | rfl <;> decide
  simp [feed, h, ht]

theorem feed_word_break {c : Char} (hc : IsBreak c) {letters : List Char} {t : Token}
    (ht : wordToken? letters = some t) (done : List Token) :
    feed ⟨.word letters, done⟩ c = feed ⟨.between, t :: done⟩ c := by
  have h : isLetter c = false := by rcases hc with rfl | rfl | rfl | rfl <;> decide
  simp [feed, h, ht]

theorem scan_number {cs : List Char} (h : ∀ c ∈ cs, isNumberChar c = true) (acc : List Char)
    (done : List Token) :
    cs.foldlM feed ⟨.number acc, done⟩ = some ⟨.number (cs.reverse ++ acc), done⟩ := by
  induction cs generalizing acc with
  | nil => rfl
  | cons c cs ih =>
    have hc : feed ⟨.number acc, done⟩ c = some ⟨.number (c :: acc), done⟩ := by
      simp [feed, h c (by simp)]
    rw [List.foldlM_cons, hc]
    simpa using ih (fun d hd => h d (by simp [hd])) (c :: acc)

/-- A number is a token up to the break after it. -/
theorem scan_text (n : Number) {c : Char} (hc : IsBreak c) (rest : List Char) (done : List Token) :
    (n.text ++ c :: rest).foldlM feed ⟨.between, done⟩ =
      (c :: rest).foldlM feed ⟨.between, .num n.reread? :: done⟩ := by
  obtain ⟨t, formed, written⟩ := n.exists_text_eq_chars
  obtain ⟨d, ds, shape, start, inside⟩ := formed.chars_eq_cons
  have first : feed ⟨.between, done⟩ d = some ⟨.number [d], done⟩ := by
    have space : isSpace d = false ∧ d ≠ '"' := by
      rcases start with rfl | start
      · decide
      · refine ⟨?_, fun hq => ?_⟩
        · by_contra hs
          simp only [isSpace, Bool.not_eq_false, Bool.or_eq_true, decide_eq_true_eq] at hs
          rcases hs with ((rfl | rfl) | rfl) | rfl <;> revert start <;> decide
        · subst hq; revert start; decide
    simp [feed, feedBetween, space, start]
  have token : numberToken? (ds.reverse ++ [d]) = some (.num n.reread?) := by
    rw [numberToken?, List.reverse_append, List.reverse_reverse, List.reverse_singleton,
      List.singleton_append, ← shape, Number.reread?, written, NumberText.parse?_chars formed]
    rfl
  rw [written, shape, List.cons_append, List.foldlM_cons, first, Option.bind_eq_bind,
    Option.bind_some, List.foldlM_append, scan_number inside, Option.bind_eq_bind, Option.bind_some,
    List.foldlM_cons, List.foldlM_cons, feed_number_break hc token]

/-- What the scanner keeps of a character of a string as written: the unit of a control character
that has no escape of its own, and the character in every other case. -/
def pieceOf (c : Char) : Piece :=
  if c.toNat < 0x20 ∧ c ≠ '\n' ∧ c ≠ '\r' ∧ c ≠ '\t' ∧ c ≠ '\x08' ∧ c ≠ '\x0c' then .unit c.toNat
  else .char c

theorem hexValue?_lowerHex : ∀ n < 16, hexValue? (lowerHex n) = some n := by decide

theorem scan_escaped (c : Char) (pieces : List Piece) (done : List Token) :
    (escaped c).foldlM feed ⟨.string pieces, done⟩ =
      some ⟨.string (pieceOf c :: pieces), done⟩ := by
  by_cases short : c ∈ ['"', '\\', '\n', '\r', '\t', '\x08', '\x0c']
  · simp only [List.mem_cons, List.not_mem_nil, or_false] at short
    rcases short with rfl | rfl | rfl | rfl | rfl | rfl | rfl <;> rfl
  · simp only [List.mem_cons, List.not_mem_nil, or_false, not_or] at short
    obtain ⟨quote, backslash, n, r, t, b, f⟩ := short
    by_cases control : c.toNat < 0x20
    · have high := hexValue?_lowerHex (c.toNat / 16) (by omega)
      have low := hexValue?_lowerHex (c.toNat % 16) (by omega)
      have zero : hexValue? '0' = some 0 := by decide
      have unit : c.toNat / 16 * 16 + c.toNat % 16 = c.toNat := by omega
      simp [escaped, quote, backslash, n, r, t, b, f, control, feed, pieceOf, high, low, zero, unit]
    · simp [escaped, quote, backslash, n, r, t, b, f, control, feed, pieceOf]

theorem scan_flatMap_escaped (cs : List Char) (pieces : List Piece) (done : List Token) :
    (cs.flatMap escaped).foldlM feed ⟨.string pieces, done⟩ =
      some ⟨.string ((cs.map pieceOf).reverse ++ pieces), done⟩ := by
  induction cs generalizing pieces with
  | nil => rfl
  | cons c cs ih =>
    rw [List.flatMap_cons, List.foldlM_append, scan_escaped, Option.bind_eq_bind,
      Option.bind_some, ih]
    simp

theorem joinPieces_unit {u : Nat} (h : u < 0xD800) (rest : List Piece) :
    joinPieces (.unit u :: rest) = (joinPieces rest).map (Char.ofNat u :: ·) := by
  have lead : isLead u = false := by simp [isLead]; omega
  have trail : isTrail u = false := by simp [isTrail]; omega
  match rest with
  | [] => simp [joinPieces, lead, trail]
  | .char _ :: _ => simp [joinPieces, lead, trail]
  | .unit _ :: _ => simp [joinPieces, lead, trail]

theorem joinPieces_map_pieceOf (cs : List Char) : joinPieces (cs.map pieceOf) = some cs := by
  induction cs with
  | nil => rfl
  | cons c cs ih =>
    rw [List.map_cons, pieceOf]
    split
    · next h => rw [joinPieces_unit (by omega), ih, Option.map_some, Char.ofNat_toNat]
    · rw [joinPieces, ih, Option.map_some]

/-- A string is a token by itself. -/
theorem scan_quoted (s : String) (rest : List Char) (done : List Token) :
    (quoted s ++ rest).foldlM feed ⟨.between, done⟩ =
      rest.foldlM feed ⟨.between, .str (some s) :: done⟩ := by
  have opening : feed ⟨.between, done⟩ '"' = some ⟨.string [], done⟩ := rfl
  have closing : feed ⟨.string ((s.toList.map pieceOf).reverse ++ []), done⟩ '"' =
      some ⟨.between, .str (some s) :: done⟩ := by
    simp [feed, stringToken, joinPieces_map_pieceOf]
  rw [quoted, List.cons_append, List.foldlM_cons, opening, Option.bind_eq_bind, Option.bind_some,
    List.append_assoc, List.foldlM_append, scan_flatMap_escaped, Option.bind_eq_bind,
    Option.bind_some, List.singleton_append, List.foldlM_cons, closing, Option.bind_eq_bind,
    Option.bind_some]

/-- A character that is a token by itself. -/
theorem scan_punctuation {c : Char} {t : Token}
    (h : ∀ done, feed ⟨.between, done⟩ c = some ⟨.between, t :: done⟩) (rest : List Char)
    (done : List Token) :
    (c :: rest).foldlM feed ⟨.between, done⟩ = rest.foldlM feed ⟨.between, t :: done⟩ := by
  rw [List.foldlM_cons, h, Option.bind_eq_bind, Option.bind_some]

/-- Blanks are passed over. -/
theorem scan_blanks {blanks : List Char} (h : ∀ c ∈ blanks, isSpace c = true) (rest : List Char)
    (done : List Token) :
    (blanks ++ rest).foldlM feed ⟨.between, done⟩ = rest.foldlM feed ⟨.between, done⟩ := by
  induction blanks with
  | nil => rfl
  | cons c blanks ih =>
    have passed : feed ⟨.between, done⟩ c = some ⟨.between, done⟩ := by
      simp [feed, feedBetween, h c (by simp)]
    rw [List.cons_append, List.foldlM_cons, passed, Option.bind_eq_bind, Option.bind_some,
      ih fun d hd => h d (by simp [hd])]

end Scanner

/-! ## Whole values -/

mutual

/-- Every number of the value is an integer of 64 bits. -/
def Integral : Json → Prop
  | .num n => n.Fits
  | .arr items => IntegralItems items
  | .obj ms => IntegralMembers ms
  | _ => True

/-- The same of each item of an array. -/
def IntegralItems : List Json → Prop
  | [] => True
  | item :: rest => item.Integral ∧ IntegralItems rest

/-- The same of the value of each member of an object. -/
def IntegralMembers : List (String × Json) → Prop
  | [] => True
  | (_, v) :: rest => v.Integral ∧ IntegralMembers rest

end

mutual

/-- Whether a value is integral can be computed. -/
def decidableIntegral : ∀ v : Json, Decidable v.Integral
  | .null | .bool _ | .str _ => inferInstanceAs (Decidable True)
  | .num n => inferInstanceAs (Decidable n.Fits)
  | .arr items => decidableIntegralItems items
  | .obj ms => decidableIntegralMembers ms

/-- The same of each item of an array. -/
def decidableIntegralItems : ∀ items : List Json, Decidable (IntegralItems items)
  | [] => inferInstanceAs (Decidable True)
  | item :: rest => @instDecidableAnd _ _ (decidableIntegral item) (decidableIntegralItems rest)

/-- The same of the value of each member of an object. -/
def decidableIntegralMembers : ∀ ms : List (String × Json), Decidable (IntegralMembers ms)
  | [] => inferInstanceAs (Decidable True)
  | (_, v) :: rest => @instDecidableAnd _ _ (decidableIntegral v) (decidableIntegralMembers rest)

end

instance (v : Json) : Decidable v.Integral := decidableIntegral v

mutual

/-- The tree that the text of a value is read as. -/
def written : Json → RawJson
  | .null => .null
  | .bool b => .bool b
  | .num n => .num n.reread?
  | .str s => .str (some s)
  | .arr items => .arr (writtenItems items)
  | .obj ms => .obj (writtenMembers ms)

/-- The items of an array as they are read. -/
def writtenItems : List Json → List RawJson
  | [] => []
  | item :: rest => item.written :: writtenItems rest

/-- The members of an object as they are read. -/
def writtenMembers : List (String × Json) → List (Option String × RawJson)
  | [] => []
  | (k, v) :: rest => (some k, v.written) :: writtenMembers rest

end

mutual

/-- **A value is read as its own tree** if its numbers are integers of 64 bits. -/
theorem written_eq_raw : ∀ v : Json, v.Integral → v.written = v.raw
  | .null, _ | .bool _, _ | .str _, _ => rfl
  | .num n, h => by rw [written, raw, Number.reread?_of_fits h]
  | .arr items, h => by rw [written, raw, writtenItems_eq_raw items h]
  | .obj ms, h => by rw [written, raw, writtenMembers_eq_raw ms h]

theorem writtenItems_eq_raw :
    ∀ items : List Json, IntegralItems items → writtenItems items = rawItems items
  | [], _ => rfl
  | item :: rest, h => by
    rw [writtenItems, rawItems, written_eq_raw item h.1, writtenItems_eq_raw rest h.2]

theorem writtenMembers_eq_raw :
    ∀ ms : List (String × Json), IntegralMembers ms → writtenMembers ms = rawMembers ms
  | [], _ => rfl
  | (k, v) :: rest, h => by
    rw [writtenMembers, rawMembers, written_eq_raw v h.1, writtenMembers_eq_raw rest h.2]

end

mutual

/-- The tokens a value is written with. -/
def tokens : Json → List Token
  | .null => [.null]
  | .bool b => [.bool b]
  | .num n => [.num n.reread?]
  | .str s => [.str (some s)]
  | .arr [] => [.beginArray, .endArray]
  | .arr (item :: rest) => .beginArray :: (item.tokens ++ (moreItemTokens rest ++ [.endArray]))
  | .obj [] => [.beginObject, .endObject]
  | .obj ((k, v) :: rest) =>
    .beginObject :: .str (some k) :: .colon :: (v.tokens ++ (moreMemberTokens rest ++ [.endObject]))

/-- The tokens of further items, a comma before each. -/
def moreItemTokens : List Json → List Token
  | [] => []
  | item :: rest => .comma :: (item.tokens ++ moreItemTokens rest)

/-- The tokens of further members, a comma before each. -/
def moreMemberTokens : List (String × Json) → List Token
  | [] => []
  | (k, v) :: rest => .comma :: .str (some k) :: .colon :: (v.tokens ++ moreMemberTokens rest)

end

/-! ## Layouts

The writers differ in the blanks between the tokens only. -/

/-- The blanks of a written value: before each item or member of a level and before the bracket that
ends it, and after a colon. -/
structure Layout where
  gap : Nat → List Char
  space : List Char
  gap_blank : ∀ level, ∀ c ∈ gap level, Scanner.isSpace c = true
  space_blank : ∀ c ∈ space, Scanner.isSpace c = true
  /-- A value ends where a gap begins. -/
  gap_break : ∀ level, ∀ c ∈ (gap level).head?, Scanner.IsBreak c

/-- No blanks. -/
def Layout.dense : Layout where
  gap _ := []
  space := []
  gap_blank := by simp
  space_blank := by simp
  gap_break := by simp

/-- One item or member to a line. -/
def Layout.indented : Layout where
  gap := newline
  space := [' ']
  gap_blank level c hc := by
    rcases List.mem_cons.1 hc with rfl | hc
    · rfl
    · rw [List.eq_of_mem_replicate hc]
      rfl
  space_blank := by decide
  gap_break level c hc := by
    obtain rfl := Option.some.inj hc
    exact .inr (.inr (.inr rfl))

section Layout

variable (l : Layout)

mutual

/-- A value as text in a layout. -/
def laidChars (level : Nat) : Json → List Char
  | .null => "null".toList
  | .bool true => "true".toList
  | .bool false => "false".toList
  | .num n => n.text
  | .str s => quoted s
  | .arr [] => ['[', ']']
  | .arr (item :: rest) =>
    '[' :: (l.gap (level + 1) ++ (item.laidChars (level + 1) ++
      (laidMoreItems (level + 1) rest ++ (l.gap level ++ [']']))))
  | .obj [] => ['{', '}']
  | .obj ((k, v) :: rest) =>
    '{' :: (l.gap (level + 1) ++ (quoted k ++ ':' :: (l.space ++ (v.laidChars (level + 1) ++
      (laidMoreMembers (level + 1) rest ++ (l.gap level ++ ['}']))))))

/-- Further items, a comma before each. -/
def laidMoreItems (level : Nat) : List Json → List Char
  | [] => []
  | item :: rest =>
    ',' :: (l.gap level ++ (item.laidChars level ++ laidMoreItems level rest))

/-- Further members, a comma before each. -/
def laidMoreMembers (level : Nat) : List (String × Json) → List Char
  | [] => []
  | (k, v) :: rest =>
    ',' :: (l.gap level ++ (quoted k ++ ':' :: (l.space ++ (v.laidChars level ++
      laidMoreMembers level rest))))

end

end Layout

mutual

theorem prettyChars_eq_laidChars (level : Nat) :
    ∀ v : Json, v.prettyChars level = laidChars .indented level v
  | .null | .bool true | .bool false | .num _ | .str _ | .arr [] | .obj [] => rfl
  | .arr (item :: rest) => by
    rw [prettyChars, laidChars, prettyChars_eq_laidChars _ item, prettyMoreItems_eq_laid _ rest,
      List.append_assoc]
    rfl
  | .obj ((k, v) :: rest) => by
    rw [prettyChars, laidChars, prettyChars_eq_laidChars _ v, prettyMoreMembers_eq_laid _ rest]
    simp [Layout.indented]

theorem prettyMoreItems_eq_laid (level : Nat) :
    ∀ items : List Json, prettyMoreItems level items = laidMoreItems .indented level items
  | [] => rfl
  | item :: rest => by
    rw [prettyMoreItems, laidMoreItems, prettyChars_eq_laidChars _ item,
      prettyMoreItems_eq_laid _ rest, List.append_assoc]
    rfl

theorem prettyMoreMembers_eq_laid (level : Nat) :
    ∀ ms : List (String × Json), prettyMoreMembers level ms = laidMoreMembers .indented level ms
  | [] => rfl
  | (k, v) :: rest => by
    rw [prettyMoreMembers, laidMoreMembers, prettyChars_eq_laidChars _ v,
      prettyMoreMembers_eq_laid _ rest]
    simp [Layout.indented]

end

mutual

theorem compactChars_eq_laidChars (level : Nat) :
    ∀ v : Json, v.compactChars = laidChars .dense level v
  | .null | .bool true | .bool false | .num _ | .str _ | .arr [] | .obj [] => rfl
  | .arr (item :: rest) => by
    rw [compactChars, compactItems, laidChars, compactChars_eq_laidChars (level + 1) item,
      compactMoreItems_eq_laid (level + 1) rest, List.append_assoc]
    rfl
  | .obj ((k, v) :: rest) => by
    rw [compactChars, compactMembers, laidChars, compactChars_eq_laidChars (level + 1) v,
      compactMoreMembers_eq_laid (level + 1) rest]
    simp [Layout.dense]

theorem compactMoreItems_eq_laid (level : Nat) :
    ∀ items : List Json, compactMoreItems items = laidMoreItems .dense level items
  | [] => rfl
  | item :: rest => by
    rw [compactMoreItems, laidMoreItems, compactChars_eq_laidChars level item,
      compactMoreItems_eq_laid level rest]
    rfl

theorem compactMoreMembers_eq_laid (level : Nat) :
    ∀ ms : List (String × Json), compactMoreMembers ms = laidMoreMembers .dense level ms
  | [] => rfl
  | (k, v) :: rest => by
    rw [compactMoreMembers, laidMoreMembers, compactChars_eq_laidChars level v,
      compactMoreMembers_eq_laid level rest]
    rfl

end

variable (l : Layout)

theorem gap_isBreak (level : Nat) {c : Char} (hc : Scanner.IsBreak c) (rest : List Char) :
    ∃ d more, l.gap level ++ c :: rest = d :: more ∧ Scanner.IsBreak d := by
  have head := l.gap_break level
  cases gap : l.gap level with
  | nil => exact ⟨c, rest, rfl, hc⟩
  | cons d blanks => exact ⟨d, _, rfl, head d (by rw [gap]; rfl)⟩

theorem laidMoreItems_isBreak (level : Nat) (items : List Json) {c : Char}
    (hc : Scanner.IsBreak c) (rest : List Char) :
    ∃ d more, laidMoreItems l level items ++ c :: rest = d :: more ∧ Scanner.IsBreak d := by
  cases items with
  | nil => exact ⟨c, rest, rfl, hc⟩
  | cons item items => exact ⟨',', _, by rw [laidMoreItems, List.cons_append], .inl rfl⟩

theorem laidMoreMembers_isBreak (level : Nat) (ms : List (String × Json)) {c : Char}
    (hc : Scanner.IsBreak c) (rest : List Char) :
    ∃ d more, laidMoreMembers l level ms ++ c :: rest = d :: more ∧ Scanner.IsBreak d := by
  cases ms with
  | nil => exact ⟨c, rest, rfl, hc⟩
  | cons m ms => exact ⟨',', _, by rw [laidMoreMembers, List.cons_append], .inl rfl⟩

open Scanner in
mutual

/-- **The scanner finds the tokens of a written value**, whatever its layout. -/
theorem scan_laid (level : Nat) : ∀ (v : Json) {c : Char}, IsBreak c →
    ∀ (rest : List Char) (done : List Token),
      (laidChars l level v ++ c :: rest).foldlM feed ⟨.between, done⟩ =
        (c :: rest).foldlM feed ⟨.between, v.tokens.reverse ++ done⟩
  | .null, c, hc, rest, done => by
    have h : feed ⟨.word "null".toList.reverse, done⟩ c = feed ⟨.between, .null :: done⟩ c :=
      feed_word_break hc rfl done
    exact congrArg (Option.bind · (fun s => rest.foldlM feed s)) h
  | .bool true, c, hc, rest, done => by
    have h : feed ⟨.word "true".toList.reverse, done⟩ c = feed ⟨.between, .bool true :: done⟩ c :=
      feed_word_break hc rfl done
    exact congrArg (Option.bind · (fun s => rest.foldlM feed s)) h
  | .bool false, c, hc, rest, done => by
    have h : feed ⟨.word "false".toList.reverse, done⟩ c = feed ⟨.between, .bool false :: done⟩ c :=
      feed_word_break hc rfl done
    exact congrArg (Option.bind · (fun s => rest.foldlM feed s)) h
  | .num n, c, hc, rest, done => scan_text n hc rest done
  | .str s, c, _, rest, done => scan_quoted s (c :: rest) done
  | .arr [], c, _, rest, done => rfl
  | .obj [], c, _, rest, done => rfl
  | .arr (item :: items), c, _, rest, done => by
    -- a break ends the last item: the gap before the bracket, or the bracket itself
    obtain ⟨b, tail, ends, hb⟩ := gap_isBreak l level (.inr (.inl rfl) : IsBreak ']') (c :: rest)
    have shape : laidChars l level (.arr (item :: items)) ++ c :: rest =
        '[' :: (l.gap (level + 1) ++ (laidChars l (level + 1) item ++
          (laidMoreItems l (level + 1) items ++ b :: tail))) := by
      simp [laidChars, ← ends]
    obtain ⟨d, more, e, hd⟩ := laidMoreItems_isBreak l (level + 1) items hb tail
    rw [shape, scan_punctuation (t := .beginArray) (fun _ => rfl), scan_blanks (l.gap_blank _), e,
      scan_laid _ item hd, ← e, scan_laidMoreItems _ items hb, ← ends,
      scan_blanks (l.gap_blank _), scan_punctuation (t := .endArray) (fun _ => rfl)]
    simp [tokens]
  | .obj ((k, v) :: ms), c, _, rest, done => by
    obtain ⟨b, tail, ends, hb⟩ :=
      gap_isBreak l level (.inr (.inr (.inl rfl)) : IsBreak '}') (c :: rest)
    have shape : laidChars l level (.obj ((k, v) :: ms)) ++ c :: rest =
        '{' :: (l.gap (level + 1) ++ (quoted k ++ ':' :: (l.space ++
          (laidChars l (level + 1) v ++ (laidMoreMembers l (level + 1) ms ++ b :: tail))))) := by
      simp [laidChars, ← ends]
    obtain ⟨d, more, e, hd⟩ := laidMoreMembers_isBreak l (level + 1) ms hb tail
    rw [shape, scan_punctuation (t := .beginObject) (fun _ => rfl), scan_blanks (l.gap_blank _),
      scan_quoted, scan_punctuation (t := .colon) (fun _ => rfl), scan_blanks l.space_blank, e,
      scan_laid _ v hd, ← e, scan_laidMoreMembers _ ms hb, ← ends,
      scan_blanks (l.gap_blank _), scan_punctuation (t := .endObject) (fun _ => rfl)]
    simp [tokens]

theorem scan_laidMoreItems (level : Nat) : ∀ (items : List Json) {c : Char}, IsBreak c →
    ∀ (rest : List Char) (done : List Token),
      (laidMoreItems l level items ++ c :: rest).foldlM feed ⟨.between, done⟩ =
        (c :: rest).foldlM feed ⟨.between, (moreItemTokens items).reverse ++ done⟩
  | [], c, _, rest, done => rfl
  | item :: items, c, hc, rest, done => by
    obtain ⟨d, more, e, hd⟩ := laidMoreItems_isBreak l level items hc rest
    rw [laidMoreItems, List.cons_append, scan_punctuation (t := .comma) (fun _ => rfl),
      List.append_assoc, List.append_assoc, scan_blanks (l.gap_blank _), e,
      scan_laid _ item hd, ← e, scan_laidMoreItems _ items hc]
    simp [moreItemTokens]

theorem scan_laidMoreMembers (level : Nat) : ∀ (ms : List (String × Json)) {c : Char},
    IsBreak c → ∀ (rest : List Char) (done : List Token),
      (laidMoreMembers l level ms ++ c :: rest).foldlM feed ⟨.between, done⟩ =
        (c :: rest).foldlM feed ⟨.between, (moreMemberTokens ms).reverse ++ done⟩
  | [], c, _, rest, done => rfl
  | (k, v) :: ms, c, hc, rest, done => by
    obtain ⟨d, more, e, hd⟩ := laidMoreMembers_isBreak l level ms hc rest
    have shape : laidMoreMembers l level ((k, v) :: ms) ++ c :: rest =
        ',' :: (l.gap level ++ (quoted k ++ ':' :: (l.space ++ (laidChars l level v ++
          (laidMoreMembers l level ms ++ c :: rest))))) := by
      simp [laidMoreMembers]
    rw [shape, scan_punctuation (t := .comma) (fun _ => rfl), scan_blanks (l.gap_blank _),
      scan_quoted, scan_punctuation (t := .colon) (fun _ => rfl), scan_blanks l.space_blank, e,
      scan_laid _ v hd, ← e, scan_laidMoreMembers _ ms hc]
    simp [moreMemberTokens]

end

/-- A line break after a text that could end there changes nothing. -/
theorem Scanner.finish_of_feed_newline {s : Scanner} {ts : List Token}
    (h : feed s '\n' = some ⟨.between, ts⟩) : s.finish = some ts.reverse := by
  obtain ⟨mode, done⟩ := s
  cases mode with
  | between =>
    obtain ⟨⟩ := Option.some.inj h
    rfl
  | number chars =>
    obtain ⟨t, ht, hs⟩ := Option.bind_eq_some_iff.1 h
    obtain ⟨⟩ := Option.some.inj hs
    simp [finish, ht]
  | word letters =>
    obtain ⟨t, ht, hs⟩ := Option.bind_eq_some_iff.1 h
    obtain ⟨⟩ := Option.some.inj hs
    simp [finish, ht]
  | string pieces => exact absurd h (by simp [feed])
  | escape pieces => exact absurd h (by simp [feed, escapeChar?])
  | unit pieces missing value => exact absurd h (by simp [feed, hexValue?])

/-- The tokens of a written value. -/
theorem tokens?_laidChars (v : Json) : tokens? (laidChars l 0 v) = some v.tokens := by
  have scan := scan_laid l 0 v (.inr (.inr (.inr rfl)) : Scanner.IsBreak '\n') [] []
  rw [List.foldlM_append, List.append_nil] at scan
  obtain ⟨s, hs, hn⟩ := Option.bind_eq_some_iff.1 (scan.trans rfl)
  have fed : Scanner.feed s '\n' = some ⟨.between, v.tokens.reverse⟩ := by simpa using hn
  rw [tokens?, Scanner.start, hs, Option.bind_some, Scanner.finish_of_feed_newline fed,
    List.reverse_reverse]

end Json

/-! ## The assembly -/

namespace RawJson

open Json (tokens moreItemTokens moreMemberTokens writtenItems writtenMembers)

/-- No value starts with the bracket that ends an array. -/
theorem feed_firstItem (v : Json) (frames : List Frame) (ts : List Json.Token) :
    (v.tokens ++ ts).foldlM Assembly.feed (.firstItem frames) =
      (v.tokens ++ ts).foldlM Assembly.feed (.value (.items [] :: frames)) := by
  cases v with
  | arr items => cases items <;> rfl
  | obj ms => cases ms <;> rfl
  | _ => rfl

mutual

/-- **The assembly makes the tokens of a value into its tree.** -/
theorem feed_tokens : ∀ (v : Json) (frames : List Frame) (ts : List Json.Token),
    (v.tokens ++ ts).foldlM Assembly.feed (.value frames) =
      ts.foldlM Assembly.feed (.ended v.written frames)
  | .null, _, _ => rfl
  | .bool _, _, _ => rfl
  | .num _, _, _ => rfl
  | .str _, _, _ => rfl
  | .arr [], _, _ => rfl
  | .obj [], _, _ => rfl
  | .arr (item :: items), frames, ts => by
    have shape : (Json.arr (item :: items)).tokens ++ ts =
        .beginArray :: (item.tokens ++ (moreItemTokens items ++ .endArray :: ts)) := by
      simp [tokens]
    have opening : Assembly.feed (.value frames) .beginArray = some (.firstItem frames) := rfl
    rw [shape, List.foldlM_cons, opening, Option.bind_eq_bind, Option.bind_some, feed_firstItem,
      feed_tokens item, feed_moreItemTokens items]
    rfl
  | .obj ((k, v) :: ms), frames, ts => by
    have shape : (Json.obj ((k, v) :: ms)).tokens ++ ts = .beginObject :: .str (some k) :: .colon ::
        (v.tokens ++ (moreMemberTokens ms ++ .endObject :: ts)) := by
      simp [tokens]
    have opening : (.beginObject :: .str (some k) :: .colon ::
        (v.tokens ++ (moreMemberTokens ms ++ .endObject :: ts))).foldlM Assembly.feed
          (.value frames) =
        (v.tokens ++ (moreMemberTokens ms ++ .endObject :: ts)).foldlM Assembly.feed
          (.value (.members [] (some k) :: frames)) := rfl
    rw [shape, opening, feed_tokens v, feed_moreMemberTokens ms]
    rfl

theorem feed_moreItemTokens : ∀ (items : List Json) (v : RawJson) (before : List RawJson)
    (frames : List Frame) (ts : List Json.Token),
    (moreItemTokens items ++ .endArray :: ts).foldlM Assembly.feed
        (.ended v (.items before :: frames)) =
      ts.foldlM Assembly.feed (.ended (.arr ((v :: before).reverse ++ writtenItems items)) frames)
  | [], v, before, frames, ts => by simp [moreItemTokens, writtenItems, Assembly.feed]
  | item :: items, v, before, frames, ts => by
    have shape : moreItemTokens (item :: items) ++ .endArray :: ts =
        .comma :: (item.tokens ++ (moreItemTokens items ++ .endArray :: ts)) := by
      simp [moreItemTokens]
    have comma : Assembly.feed (.ended v (.items before :: frames)) .comma =
        some (.value (.items (v :: before) :: frames)) := rfl
    rw [shape, List.foldlM_cons, comma, Option.bind_eq_bind, Option.bind_some, feed_tokens item,
      feed_moreItemTokens items]
    simp [writtenItems]

theorem feed_moreMemberTokens : ∀ (ms : List (String × Json)) (v : RawJson)
    (before : List (Option String × RawJson)) (key : Option String) (frames : List Frame)
    (ts : List Json.Token),
    (moreMemberTokens ms ++ .endObject :: ts).foldlM Assembly.feed
        (.ended v (.members before key :: frames)) =
      ts.foldlM Assembly.feed
        (.ended (.obj (((key, v) :: before).reverse ++ writtenMembers ms)) frames)
  | [], v, before, key, frames, ts => by simp [moreMemberTokens, writtenMembers, Assembly.feed]
  | (k, w) :: ms, v, before, key, frames, ts => by
    have shape : moreMemberTokens ((k, w) :: ms) ++ .endObject :: ts = .comma :: .str (some k) ::
        .colon :: (w.tokens ++ (moreMemberTokens ms ++ .endObject :: ts)) := by
      simp [moreMemberTokens]
    have comma : (.comma :: .str (some k) :: .colon ::
        (w.tokens ++ (moreMemberTokens ms ++ .endObject :: ts))).foldlM Assembly.feed
          (.ended v (.members before key :: frames)) =
        (w.tokens ++ (moreMemberTokens ms ++ .endObject :: ts)).foldlM Assembly.feed
          (.value (.members ((key, v) :: before) (some k) :: frames)) := rfl
    rw [shape, comma, feed_tokens w, feed_moreMemberTokens ms]
    simp [writtenMembers]

end

/-- **A written value is read as a tree of its shape**, whatever its layout. -/
theorem parse?_laidChars (v : Json) (l : Json.Layout) :
    parse? (String.ofList (Json.laidChars l 0 v)) = some v.written := by
  have fed := feed_tokens v [] []
  rw [List.append_nil] at fed
  rw [parse?, String.toList_ofList, Json.tokens?_laidChars l, Option.bind_some, ofTokens?, fed]
  rfl

theorem parse?_compact_eq_written (v : Json) : parse? v.compact = some v.written := by
  rw [Json.compact, Json.compactChars_eq_laidChars 0, parse?_laidChars]

theorem parse?_pretty {v : Json} (h : v.Integral) : parse? v.pretty = some v.raw := by
  rw [Json.pretty, Json.prettyChars_eq_laidChars, parse?_laidChars, v.written_eq_raw h]

theorem parse?_compact {v : Json} (h : v.Integral) : parse? v.compact = some v.raw := by
  rw [parse?_compact_eq_written, v.written_eq_raw h]

end RawJson
end ProxyFeed

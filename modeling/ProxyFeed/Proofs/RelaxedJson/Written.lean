import ProxyFeed.Proofs.Json.ReadBack
import ProxyFeed.RelaxedJson.Reader

/-!
# Standard strings in relaxed JSON

Relaxed JSON keeps strings as they are written.  What standard JSON writes for a text is read up to
its closing quote, is already in standard notation, and stands for that text.

## What is here

* `LooseText.written` — a text as written in standard JSON.
* `LooseText.escaped_cases` — the three ways to write a character, which the proofs here go through.
* `LooseText.string?_written`, `LooseText.unescaped_written`, `LooseText.standard_written` — the
  reader and the two views of a string.
-/

set_option autoImplicit false
namespace ProxyFeed
namespace LooseText

open Json (escaped lowerHex)

/-- A text as written in standard JSON, without its quotes. -/
def written (s : String) : LooseText := ofChars (s.toList.flatMap escaped)

@[simp] theorem ofChars_nil : ofChars [] = [] := rfl

@[simp] theorem ofChars_cons (c : Char) (cs : List Char) :
    ofChars (c :: cs) = .char c :: ofChars cs := rfl

@[simp] theorem ofChars_append (cs ds : List Char) :
    ofChars (cs ++ ds) = ofChars cs ++ ofChars ds :=
  List.map_append

/-- The escapes of one letter, with the characters they stand for. -/
def shortEscapes : List (Char × Char) :=
  [('"', '"'), ('\\', '\\'), ('\n', 'n'), ('\r', 'r'), ('\t', 't'), ('\x08', 'b'), ('\x0c', 'f')]

/-- A character is written as it is, with an escape of one letter, or with its number. -/
theorem escaped_cases (c : Char) :
    (c ≠ '"' ∧ c ≠ '\\' ∧ 0x20 ≤ c.toNat ∧ escaped c = [c]) ∨
    (∃ d, (c, d) ∈ shortEscapes ∧ escaped c = ['\\', d]) ∨
    (c.toNat < 0x20 ∧
      escaped c = ['\\', 'u', '0', '0', lowerHex (c.toNat / 16), lowerHex (c.toNat % 16)]) := by
  by_cases short : c ∈ ['"', '\\', '\n', '\r', '\t', '\x08', '\x0c']
  · refine .inr (.inl ?_)
    simp only [List.mem_cons, List.not_mem_nil, or_false] at short
    rcases short with rfl | rfl | rfl | rfl | rfl | rfl | rfl <;> exact ⟨_, by decide, rfl⟩
  · simp only [List.mem_cons, List.not_mem_nil, or_false, not_or] at short
    obtain ⟨quote, backslash, n, r, t, b, f⟩ := short
    by_cases control : c.toNat < 0x20
    · exact .inr (.inr ⟨control, by simp [escaped, quote, backslash, n, r, t, b, f, control]⟩)
    · exact .inl ⟨quote, backslash, by omega,
        by simp [escaped, quote, backslash, n, r, t, b, f, control]⟩

/-- A hexadecimal digit is read as its value, and is written as it is. -/
theorem lowerHex_facts : ∀ n < 16, hexValue (.char (lowerHex n)) = n ∧ isHex (lowerHex n) = true ∧
    lowerHex n ≠ '"' ∧ lowerHex n ≠ '\\' ∧ escaped (lowerHex n) = [lowerHex n] := by
  decide

/-! ## Reading -/

/-- A character that begins no escape and ends no string. -/
theorem string?_plain {c : Char} (quote : c ≠ '"') (backslash : c ≠ '\\') (rest : LooseText) :
    string? '"' (.char c :: rest) = (string? '"' rest).map fun r => (.char c :: r.1, r.2) := by
  rw [string?]
  · simp [quote]
  · rintro d more ⟨⟩
    exact absurd rfl backslash

theorem string?_escaped (c : Char) (rest : LooseText) :
    string? '"' (ofChars (escaped c) ++ rest) =
      (string? '"' rest).map fun r => (ofChars (escaped c) ++ r.1, r.2) := by
  rcases escaped_cases c with ⟨quote, backslash, -, plain⟩ | ⟨d, short, written⟩ |
    ⟨control, written⟩
  · rw [plain]
    exact string?_plain quote backslash rest
  · have begins : startsEscape (.char d :: rest) = true := by
      simp only [shortEscapes, List.mem_cons, Prod.mk.injEq, List.not_mem_nil, or_false] at short
      rcases short with ⟨-, rfl⟩ | ⟨-, rfl⟩ | ⟨-, rfl⟩ | ⟨-, rfl⟩ | ⟨-, rfl⟩ | ⟨-, rfl⟩ |
        ⟨-, rfl⟩ <;> rfl
    rw [written]
    simp [string?, begins]
  · obtain ⟨-, hex_high, quote_high, backslash_high, -⟩ := lowerHex_facts (c.toNat / 16) (by omega)
    obtain ⟨-, hex_low, quote_low, backslash_low, -⟩ := lowerHex_facts (c.toNat % 16) (by omega)
    have begins : startsEscape (.char 'u' :: .char '0' :: .char '0' ::
        .char (lowerHex (c.toNat / 16)) :: .char (lowerHex (c.toNat % 16)) :: rest) = true := by
      have zero : isHex '0' = true := by decide
      simp [startsEscape, startsHex, span, zero, hex_high, hex_low]
    rw [written]
    simp [string?, begins, string?_plain, quote_high, backslash_high, quote_low, backslash_low,
      Function.comp_def]

/-- **A string is read up to its closing quote.** -/
theorem string?_written (s : String) (rest : LooseText) :
    string? '"' (written s ++ .char '"' :: rest) = some (written s, rest) := by
  rw [written]
  induction s.toList with
  | nil => rfl
  | cons c cs ih =>
    rw [List.flatMap_cons, ofChars_append, List.append_assoc, string?_escaped, ih]
    rfl

/-! ## What a string stands for -/

theorem unescapedAfter_escaped (c : Char) (rest : LooseText) :
    unescapedAfter none (ofChars (escaped c) ++ rest) = .char c :: unescapedAfter none rest := by
  rcases escaped_cases c with ⟨-, backslash, -, plain⟩ | ⟨d, short, written⟩ | ⟨control, written⟩
  · rw [plain]
    simp [unescapedAfter, pending, backslash]
  · simp only [shortEscapes, List.mem_cons, Prod.mk.injEq, List.not_mem_nil, or_false] at short
    rcases short with ⟨rfl, rfl⟩ | ⟨rfl, rfl⟩ | ⟨rfl, rfl⟩ | ⟨rfl, rfl⟩ | ⟨rfl, rfl⟩ | ⟨rfl, rfl⟩ |
      ⟨rfl, rfl⟩ <;> rfl
  · obtain ⟨value_high, -⟩ := lowerHex_facts (c.toNat / 16) (by omega)
    obtain ⟨value_low, -⟩ := lowerHex_facts (c.toNat % 16) (by omega)
    have unit : unitValue (.char '0') (.char '0') (.char (lowerHex (c.toNat / 16)))
        (.char (lowerHex (c.toNat % 16))) = c.toNat := by
      have zero : hexValue (.char '0') = 0 := by decide
      rw [unitValue, zero, value_high, value_low]
      omega
    have lead : Json.isLead c.toNat = false := by simp [Json.isLead]; omega
    have trail : Json.isTrail c.toNat = false := by simp [Json.isTrail]; omega
    rw [written]
    simp [unescapedAfter, unit, pending, ofUnit, lead, trail, Char.ofNat_toNat]

/-- **A written string stands for its text.** -/
theorem unescaped_written (s : String) : (written s).unescaped = ofChars s.toList := by
  rw [written, unescaped]
  induction s.toList with
  | nil => rfl
  | cons c cs ih => rw [List.flatMap_cons, ofChars_append, unescapedAfter_escaped, ih, ofChars_cons]

theorem standard_plain {c : Char} (backslash : c ≠ '\\') (plain : escaped c = [c])
    (rest : LooseText) : standard (.char c :: rest) = .char c :: standard rest := by
  simp [standard, backslash, plain]

theorem standard_escaped (c : Char) (rest : LooseText) :
    standard (ofChars (escaped c) ++ rest) = ofChars (escaped c) ++ standard rest := by
  rcases escaped_cases c with ⟨-, backslash, -, plain⟩ | ⟨d, short, written⟩ | ⟨control, written⟩
  · rw [plain]
    exact standard_plain backslash plain rest
  · rw [written]
    simp only [shortEscapes, List.mem_cons, Prod.mk.injEq, List.not_mem_nil, or_false] at short
    rcases short with ⟨-, rfl⟩ | ⟨-, rfl⟩ | ⟨-, rfl⟩ | ⟨-, rfl⟩ | ⟨-, rfl⟩ | ⟨-, rfl⟩ | ⟨-, rfl⟩ <;>
      rfl
  · obtain ⟨-, -, -, backslash_high, plain_high⟩ := lowerHex_facts (c.toNat / 16) (by omega)
    obtain ⟨-, -, -, backslash_low, plain_low⟩ := lowerHex_facts (c.toNat % 16) (by omega)
    have number : standard (.char '\\' :: .char 'u' :: .char '0' :: .char '0' ::
        .char (lowerHex (c.toNat / 16)) :: .char (lowerHex (c.toNat % 16)) :: rest) =
        .char '\\' :: .char 'u' :: standard (.char '0' :: .char '0' ::
          .char (lowerHex (c.toNat / 16)) :: .char (lowerHex (c.toNat % 16)) :: rest) := rfl
    rw [written]
    simp only [ofChars_cons, ofChars_nil, List.cons_append, List.nil_append]
    rw [number, standard_plain (by decide) (by decide), standard_plain (by decide) (by decide),
      standard_plain backslash_high plain_high, standard_plain backslash_low plain_low]

/-- **A written string is in standard notation.** -/
theorem standard_written (s : String) : (written s).standard = written s := by
  rw [written]
  induction s.toList with
  | nil => rfl
  | cons c cs ih => rw [List.flatMap_cons, ofChars_append, standard_escaped, ih]

theorem isChars_ofChars (cs ds : List Char) : (ofChars cs).isChars ds = decide (cs = ds) := by
  induction cs generalizing ds with
  | nil => cases ds <;> simp [isChars]
  | cons c cs ih => cases ds <;> simp [isChars, ih]

/-- A text without a null character is not cut short. -/
theorem takeWhile_ofChars {cs : List Char} (h : '\x00' ∉ cs) :
    (ofChars cs).takeWhile (· ≠ .char '\x00') = ofChars cs := by
  refine List.takeWhile_eq_self_iff.2 fun piece hp => ?_
  obtain ⟨c, hc, rfl⟩ := List.mem_map.1 hp
  have other : c ≠ '\x00' := fun nul => h (nul ▸ hc)
  simpa using other

end LooseText
end ProxyFeed

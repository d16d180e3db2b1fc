import ProxyFeed.Text.Base64
import ProxyFeed.Text.Form

/-!
# Encodings can be undone

Each text encoding comes with a decoder.  The main statements say that the decoder gives back what
was encoded, for every input:

* `Utf8.decode?_encode` — UTF-8, strictly decoded;
* `Percent.decode_encode` — percent escapes, for an alphabet of ASCII without the percent sign;
* `Form.decode_encode` — pairs of texts as a form-encoded query;
* `Base64.decode?_encode` — bytes in base64.
-/

set_option autoImplicit false
namespace ProxyFeed

/-! ## UTF-8

A character is written as a first byte and up to three continuation bytes.  The scan is followed
byte by byte: what the first byte begins, each continuation byte adds to. -/

namespace Utf8

theorem toNat_byte {n : Nat} (h : n < 256) : (UInt8.ofNat n).toNat = n :=
  UInt8.toNat_ofNat'.trans (Nat.mod_eq_of_lt h)

/-- A continuation byte in range is taken in. -/
theorem push_byte {p : Pending} {n : Nat} (hn : n < 64) (low : p.low.toNat ≤ n + 128)
    (high : n + 128 ≤ p.high.toNat) :
    p.push (UInt8.ofNat (n + 128)) =
      if p.owed ≤ 1 then some (.inl (Char.ofNat (p.bits * 64 + n)))
      else some (.inr ⟨p.bits * 64 + n, p.owed - 1, 0x80, 0xBF⟩) := by
  have hb := toNat_byte (show n + 128 < 256 by omega)
  rw [Pending.push, if_pos ⟨UInt8.le_iff_toNat_le.2 (by omega), UInt8.le_iff_toNat_le.2 (by omega)⟩]
  simp only [hb, Nat.add_sub_cancel]

/-- The last continuation byte completes a character. -/
theorem scan_last {bits n : Nat} {low high : UInt8} (bs : List UInt8) (hn : n < 64)
    (hl : low.toNat ≤ n + 128) (hh : n + 128 ≤ high.toNat) :
    scan (some ⟨bits, 1, low, high⟩) (UInt8.ofNat (n + 128) :: bs) =
      some (Char.ofNat (bits * 64 + n)) :: scan none bs := by
  rw [scan, push_byte hn hl hh]
  rfl

/-- A continuation byte before the last one leaves one byte less owed. -/
theorem scan_more {bits owed n : Nat} {low high : UInt8} (bs : List UInt8) (hn : n < 64)
    (hl : low.toNat ≤ n + 128) (hh : n + 128 ≤ high.toNat) :
    scan (some ⟨bits, owed + 2, low, high⟩) (UInt8.ofNat (n + 128) :: bs) =
      scan (some ⟨bits * 64 + n, owed + 1, 0x80, 0xBF⟩) bs := by
  rw [scan, push_byte hn hl hh, if_neg (by simp)]
  rfl

/-- The first byte of a character of two bytes. -/
theorem lead_two {n : Nat} (h : 2 ≤ n) (hn : n < 32) :
    lead (UInt8.ofNat (n + 192)) = .begun ⟨n, 1, 0x80, 0xBF⟩ := by
  have hb := toNat_byte (show n + 192 < 256 by omega)
  simp only [lead, UInt8.lt_iff_toNat_lt, hb, UInt8.reduceToNat]
  rw [if_neg (by omega), if_neg (by omega), if_pos (by omega), Nat.add_sub_cancel]

/-- The first byte of a character of three bytes. -/
theorem lead_three {n : Nat} (hn : n < 16) :
    lead (UInt8.ofNat (n + 224)) =
      .begun ⟨n, 2, if n = 0 then 0xA0 else 0x80, if n = 13 then 0x9F else 0xBF⟩ := by
  have hb := toNat_byte (show n + 224 < 256 by omega)
  simp only [lead, UInt8.lt_iff_toNat_lt, ← UInt8.toNat_inj, hb, UInt8.reduceToNat]
  rw [if_neg (by omega), if_neg (by omega), if_neg (by omega), if_pos (by omega),
    Nat.add_sub_cancel]
  simp only [show n + 224 = 224 ↔ n = 0 by omega, show n + 224 = 237 ↔ n = 13 by omega]

/-- The first byte of a character of four bytes. -/
theorem lead_four {n : Nat} (hn : n < 5) :
    lead (UInt8.ofNat (n + 240)) =
      .begun ⟨n, 3, if n = 0 then 0x90 else 0x80, if n = 4 then 0x8F else 0xBF⟩ := by
  have hb := toNat_byte (show n + 240 < 256 by omega)
  simp only [lead, UInt8.lt_iff_toNat_lt, ← UInt8.toNat_inj, hb, UInt8.reduceToNat]
  rw [if_neg (by omega), if_neg (by omega), if_neg (by omega), if_neg (by omega),
    if_pos (by omega), Nat.add_sub_cancel]
  simp only [show n + 240 = 240 ↔ n = 0 by omega, show n + 240 = 244 ↔ n = 4 by omega]

/-- The scan finds an encoded character. -/
theorem scan_utf8EncodeChar (c : Char) (bs : List UInt8) :
    scan none (String.utf8EncodeChar c ++ bs) = some c :: scan none bs := by
  have valid := c.valid
  have hc : Char.ofNat c.val.toNat = c := Char.ofNat_toNat c
  rw [String.utf8EncodeChar]
  generalize hn : c.val.toNat = n at *
  have hv : n < 0xD800 ∨ (0xDFFF < n ∧ n < 0x110000) := by
    simpa [UInt32.isValidChar, Nat.isValidChar, hn] using valid
  clear hn valid
  have last : n % 64 < 64 := Nat.mod_lt n (by decide)
  have second : n / 64 % 64 < 64 := Nat.mod_lt _ (by decide)
  have third : n / 4096 % 64 < 64 := Nat.mod_lt _ (by decide)
  split
  · have hb := toNat_byte (show n < 256 by omega)
    have e : lead (UInt8.ofNat n) = .whole c := by
      rw [lead, if_pos (UInt8.lt_iff_toNat_lt.2 (by rw [hb]; simp; omega)), hb, hc]
    simp only [List.cons_append, List.nil_append, scan, e]
  · split
    · rw [Nat.mod_eq_of_lt (show n / 64 < 32 by omega), List.cons_append, scan,
        lead_two (by omega) (by omega)]
      dsimp only
      rw [List.cons_append, scan_last _ last (by simp) (by simp; omega),
        show n / 64 * 64 + n % 64 = n by omega, hc]
      rfl
    · split
      · rw [Nat.mod_eq_of_lt (show n / 4096 < 16 by omega), List.cons_append, scan,
          lead_three (by omega)]
        dsimp only
        rw [List.cons_append, scan_more _ second (by split <;> simp; omega)
            (by split <;> simp <;> omega), List.cons_append,
          scan_last _ last (by simp) (by simp; omega),
          show (n / 4096 * 64 + n / 64 % 64) * 64 + n % 64 = n by omega, hc]
        rfl
      · rw [Nat.mod_eq_of_lt (show n / 262144 < 8 by omega), List.cons_append, scan,
          lead_four (by omega)]
        dsimp only
        rw [List.cons_append, scan_more _ third (by split <;> simp; omega)
            (by split <;> simp <;> omega), List.cons_append,
          scan_more _ second (by simp) (by simp; omega), List.cons_append,
          scan_last _ last (by simp) (by simp; omega),
          show ((n / 262144 * 64 + n / 4096 % 64) * 64 + n / 64 % 64) * 64 + n % 64 = n by omega,
          hc]
        rfl

theorem scan_encode (cs : List Char) : scan none (encode cs) = cs.map some := by
  induction cs with
  | nil => rfl
  | cons c cs ih => rw [encode, List.flatMap_cons, scan_utf8EncodeChar, ← encode, ih, List.map_cons]

/-- **Strict decoding gives back every text.** -/
theorem decode?_encode (cs : List Char) : decode? (encode cs) = some cs := by
  rw [decode?, scan_encode]
  induction cs with
  | nil => rfl
  | cons c cs ih => simp_all

end Utf8

/-! ## Percent escapes -/

namespace Percent

theorem hexValue?_hexDigit : ∀ n < 16, hexValue? (hexDigit n) = some n := by decide

theorem toNat_ofNat_byte : ∀ n < 256, (Char.ofNat n).toNat = n := by decide +kernel

theorem utf8EncodeChar_ascii :
    ∀ n < 128, String.utf8EncodeChar (Char.ofNat n) = [UInt8.ofNat n] := by decide +kernel

theorem decode_cons {c : Char} (h : c ≠ '%') (rest : List Char) :
    decode (c :: rest) = String.utf8EncodeChar c ++ decode rest := by
  rw [decode.eq_def]
  split <;> simp_all

/-- An escape stands for its byte. -/
theorem decode_escape (b : UInt8) (rest : List Char) :
    decode (escape b ++ rest) = b :: decode rest := by
  have hb := b.toNat_lt
  simp only [escape, List.cons_append, List.nil_append, decode,
    hexValue?_hexDigit (b.toNat / 16) (by omega), hexValue?_hexDigit (b.toNat % 16) (by omega),
    show 16 * (b.toNat / 16) + b.toNat % 16 = b.toNat by omega, UInt8.ofNat_toNat]

/-- An alphabet in which escapes can be told from the characters that stand for themselves: ASCII
without the percent sign. -/
def IsAlphabet (keep : Char → Bool) : Prop := ∀ c, keep c = true → c.toNat < 128 ∧ c ≠ '%'

/-- A character of an alphabet stands for its byte. -/
theorem decode_kept {keep : Char → Bool} (h : IsAlphabet keep) {b : UInt8}
    (hk : keep (Char.ofNat b.toNat) = true) (rest : List Char) :
    decode (Char.ofNat b.toNat :: rest) = b :: decode rest := by
  obtain ⟨ascii, ne⟩ := h _ hk
  rw [toNat_ofNat_byte _ b.toNat_lt] at ascii
  rw [decode_cons ne, utf8EncodeChar_ascii _ ascii, UInt8.ofNat_toNat, List.singleton_append]

/-- **Percent escapes can be undone.** -/
theorem decode_encode {keep : Char → Bool} (h : IsAlphabet keep) (bs : List UInt8) :
    decode (encode keep bs) = bs := by
  induction bs with
  | nil => rfl
  | cons b bs ih =>
    rw [encode, List.flatMap_cons, ← encode]
    split
    · next hk => rw [List.singleton_append, decode_kept h hk, ih]
    · rw [decode_escape, ih]

/-- The characters of escapes. -/
def isEscapeChar (c : Char) : Bool := c = '%' || (hexValue? c).isSome

theorem isEscapeChar_hexDigit : ∀ n < 16, isEscapeChar (hexDigit n) = true := by decide

/-- Encoded text holds nothing but the alphabet and escapes. -/
theorem keep_or_isEscapeChar_of_mem_encode {keep : Char → Bool} {bs : List UInt8} {c : Char}
    (h : c ∈ encode keep bs) : keep c = true ∨ isEscapeChar c = true := by
  obtain ⟨b, -, hc⟩ := List.mem_flatMap.1 h
  have hb := b.toNat_lt
  split at hc
  · next hk => exact .inl (by rwa [List.mem_singleton.1 hc])
  · simp only [escape, List.mem_cons, List.not_mem_nil, or_false] at hc
    rcases hc with rfl | rfl | rfl
    · exact .inr rfl
    · exact .inr (isEscapeChar_hexDigit _ (by omega))
    · exact .inr (isEscapeChar_hexDigit _ (by omega))

/-- A character that is neither in the alphabet nor part of an escape does not occur in encoded
text. -/
theorem not_mem_encode {keep : Char → Bool} {c : Char} (kept : keep c = false)
    (escape : isEscapeChar c = false) (bs : List UInt8) : c ∉ encode keep bs := by
  intro h
  rcases keep_or_isEscapeChar_of_mem_encode h with h | h
  · cases kept.symm.trans h
  · cases escape.symm.trans h

/-- Alphabets are told apart from their first 128 characters. -/
theorem isAlphabet_of_ascii {keep : Char → Bool} (ascii : ∀ c, keep c = true → c.toNat < 128)
    (percent : keep '%' = false) : IsAlphabet keep :=
  fun c hc => ⟨ascii c hc, fun h => by simp [h ▸ hc] at percent⟩

theorem toNat_lt_of_isAlphanumeric {c : Char} (h : isAlphanumeric c = true) : c.toNat < 128 := by
  simp only [isAlphanumeric, Bool.or_eq_true, Bool.and_eq_true, decide_eq_true_eq, Char.le_def,
    UInt32.le_iff_toNat_le] at h
  have : c.toNat = c.val.toNat := rfl
  simp at h
  omega

/-- Letters, digits and some more ASCII characters. -/
theorem toNat_lt_of_alphanumeric_or {more : List Char} (hm : ∀ c ∈ more, c.toNat < 128) {c : Char}
    (h : (isAlphanumeric c || more.contains c) = true) : c.toNat < 128 := by
  rcases Bool.or_eq_true _ _ ▸ h with h | h
  · exact toNat_lt_of_isAlphanumeric h
  · exact hm c (by simpa using h)

theorem isAlphabet_inFragment : IsAlphabet inFragment :=
  isAlphabet_of_ascii (fun _ => toNat_lt_of_alphanumeric_or (by simp)) (by decide)

theorem isAlphabet_inUserinfo : IsAlphabet inUserinfo :=
  isAlphabet_of_ascii (fun _ => toNat_lt_of_alphanumeric_or (by simp)) (by decide)

/-- **A fragment stands for its text.** -/
theorem decode_fragment (s : String) : decode (fragment s) = utf8 s :=
  decode_encode isAlphabet_inFragment _

/-- **A userinfo stands for its text.** -/
theorem decode_userinfo (s : String) : decode (userinfo s) = utf8 s :=
  decode_encode isAlphabet_inUserinfo _

end Percent

/-! ## Form encoding

The separators never occur inside an encoded text, so cutting at them finds the pairs again. -/

namespace Form

/-- The characters kept before the space is written as a plus sign. -/
def isKept (c : Char) : Bool := isPlain c || c = ' '

theorem isAlphabet_isKept : Percent.IsAlphabet isKept := by
  refine Percent.isAlphabet_of_ascii (fun c h => ?_) (by decide)
  rcases Bool.or_eq_true _ _ ▸ h with h | h
  · exact Percent.toNat_lt_of_alphanumeric_or (by simp) h
  · simp only [decide_eq_true_eq] at h; subst h; decide

/-- A character that is neither kept nor part of an escape, and is not the plus sign, does not occur
in an encoded text. -/
theorem not_mem_encodeText {sep : Char} (kept : isKept sep = false)
    (escape : Percent.isEscapeChar sep = false) (plus : sep ≠ '+') (s : String) :
    sep ∉ encodeText s := by
  intro h
  obtain ⟨c, hc, e⟩ := List.mem_map.1 h
  split at e
  · exact plus e.symm
  · subst e
    rcases Percent.keep_or_isEscapeChar_of_mem_encode hc with h | h
    · simp [isKept] at kept; simp [kept] at h
    · simp [h] at escape

theorem amp_not_mem_encodeText (s : String) : '&' ∉ encodeText s :=
  not_mem_encodeText (by decide) (by decide) (by decide) s

theorem eq_not_mem_encodeText (s : String) : '=' ∉ encodeText s :=
  not_mem_encodeText (by decide) (by decide) (by decide) s

/-- **An encoded text stands for its bytes.** -/
theorem decodeText_encodeText (s : String) : decodeText (encodeText s) = utf8 s := by
  rw [decodeText, encodeText, List.map_map, List.map_congr_left (g := id), List.map_id]
  · exact Percent.decode_encode isAlphabet_isKept _
  · intro c hc
    have plus : c ≠ '+' := by
      rintro rfl
      rcases Percent.keep_or_isEscapeChar_of_mem_encode hc with h | h <;> revert h <;> decide
    by_cases space : c = ' ' <;> simp [space, plus]

/-- Cutting at a separator finds the first part. -/
theorem splitAt_append {sep : Char} {part : List Char} (h : sep ∉ part) (rest : List Char) :
    splitAt sep (part ++ sep :: rest) = part :: splitAt sep rest := by
  induction part with
  | nil => simp [splitAt]
  | cons c cs ih =>
    simp only [List.mem_cons, not_or] at h
    simp [splitAt, Ne.symm h.1, ih h.2]

/-- A text without the separator is one part. -/
theorem splitAt_of_not_mem {sep : Char} {part : List Char} (h : sep ∉ part) :
    splitAt sep part = [part] := by
  induction part with
  | nil => rfl
  | cons c cs ih =>
    simp only [List.mem_cons, not_or] at h
    simp [splitAt, Ne.symm h.1, ih h.2]

/-- Cutting undoes joining. -/
theorem splitAt_intercalate {sep : Char} :
    ∀ {parts : List (List Char)}, parts ≠ [] → (∀ p ∈ parts, sep ∉ p) →
      splitAt sep ([sep].intercalate parts) = parts
  | [], h, _ => absurd rfl h
  | [p], _, hs => by simpa [List.intercalate] using splitAt_of_not_mem (hs p (by simp))
  | p :: q :: rest, _, hs => by
    have ih := @splitAt_intercalate sep (q :: rest) (by simp) fun r hr => hs r (by simp [hr])
    have e : [sep].intercalate (p :: q :: rest) = p ++ sep :: [sep].intercalate (q :: rest) := by
      simp [List.intercalate]
    rw [e, splitAt_append (hs p (by simp)), ih]

theorem amp_not_mem_encodePair (kv : String × String) : '&' ∉ encodePair kv := by
  simp [encodePair, amp_not_mem_encodeText]

/-- **An encoded pair stands for its key and value.** -/
theorem decodePair_encodePair (kv : String × String) :
    decodePair (encodePair kv) = (utf8 kv.1, utf8 kv.2) := by
  have hk : ∀ c ∈ encodeText kv.1, (decide (c ≠ '=')) = true := by
    intro c hc
    have ne : c ≠ '=' := fun h => eq_not_mem_encodeText kv.1 (by rwa [← h])
    simpa using ne
  rw [decodePair, encodePair, List.takeWhile_append_of_pos hk, List.dropWhile_append_of_pos hk]
  simp [decodeText_encodeText]

/-- **A form-encoded query stands for its pairs, in order.** -/
theorem decode_encode (pairs : List (String × String)) :
    decode (encode pairs) = pairs.map fun kv => (utf8 kv.1, utf8 kv.2) := by
  by_cases h : pairs = []
  · subst h; rfl
  · have ne : ∀ p ∈ pairs.map encodePair, (decide (p ≠ [])) = true := by
      intro p hp
      obtain ⟨kv, -, rfl⟩ := List.mem_map.1 hp
      simp [encodePair]
    have amp : ∀ p ∈ pairs.map encodePair, '&' ∉ p := by
      intro p hp
      obtain ⟨kv, -, rfl⟩ := List.mem_map.1 hp
      exact amp_not_mem_encodePair kv
    rw [decode, encode, splitAt_intercalate (by simpa using h) amp, List.filter_eq_self.2 ne,
      List.map_map]
    exact List.map_congr_left fun kv _ => decodePair_encodePair kv

end Form

/-! ## Base64 -/

namespace Base64

theorem value?_sextet : ∀ n < 64, value? (sextet n) = some n := by decide

theorem sextet_ne_pad : ∀ n < 64, sextet n ≠ '=' := by decide

/-- **Base64 can be undone.** -/
theorem decode?_encode (bs : List UInt8) : decode? (encode bs) = some bs := by
  fun_induction encode bs with
  | case1 a b c rest n ih =>
    have ha := a.toNat_lt
    have hb := b.toNat_lt
    have hc := c.toNat_lt
    have h1 := value?_sextet (n / 262144) (by omega)
    have h2 := value?_sextet (n / 4096 % 64) (by omega)
    have h3 := value?_sextet (n / 64 % 64) (by omega)
    have h4 := value?_sextet (n % 64) (by omega)
    have p3 := sextet_ne_pad (n / 64 % 64) (by omega)
    have p4 := sextet_ne_pad (n % 64) (by omega)
    rw [decode?.eq_def]
    split
    · simp_all
    · simp_all
    · simp_all
    · next heq =>
      simp only [List.cons.injEq] at heq
      obtain ⟨rfl, rfl, rfl, rfl, rfl⟩ := heq
      simp [h1, h2, h3, h4, ih,
        show n / 262144 * 262144 + n / 4096 % 64 * 4096 + n / 64 % 64 * 64 + n % 64 = n by omega,
        show n / 65536 = a.toNat by omega, show n / 256 % 256 = b.toNat by omega,
        show n % 256 = c.toNat by omega]
    · next h => exact (h _ _ _ _ _ rfl).elim
  | case2 a b n =>
    have ha := a.toNat_lt
    have hb := b.toNat_lt
    have h1 := value?_sextet (n / 4096) (by omega)
    have h2 := value?_sextet (n / 64 % 64) (by omega)
    have h3 := value?_sextet (n % 64) (by omega)
    have p3 : sextet (n % 64) = '=' → False := sextet_ne_pad (n % 64) (by omega)
    simp [decode?, h1, h2, h3,
      show n / 4096 * 4096 + n / 64 % 64 * 64 + n % 64 = n by omega, show n % 4 = 0 by omega,
      show n / 1024 = a.toNat by omega, show n / 4 % 256 = b.toNat by omega]
  | case3 a n =>
    have ha := a.toNat_lt
    have h1 := value?_sextet (n / 64) (by omega)
    have h2 := value?_sextet (n % 64) (by omega)
    simp [decode?, h1, h2, show n / 64 * 64 + n % 64 = n by omega, show n % 16 = 0 by omega,
      show n / 16 = a.toNat by omega]
  | case4 => rfl

end Base64
end ProxyFeed

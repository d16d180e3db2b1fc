import ProxyFeed.Http.Host
import ProxyFeed.Proofs.Link.UriReadBack
import ProxyFeed.Proofs.Text.Blank

/-!
# The host in a request

Clients and relays write a host in several forms: with a port or without, and an IPv6 address in
brackets or without.  A colon may set off a port, and it may divide the groups of an address, so
that the forms are told apart by the colons that are left.

## What is here

* `Host.IsName` and `Host.IsAddress6` — the hosts that a form is defined for.
* `Host.Written` — the forms of a host; `Host.stripPort_of_written` gets the host out of each.
* `Host.Named` — the headers that name a host; `Host.ofHeaders_of_named` reads them.
-/

set_option autoImplicit false
namespace ProxyFeed

namespace Host

/-! ## Hosts and their forms -/

/-- A character of ASCII that can be printed, other than the space. -/
def IsVisible (c : Char) : Prop := 0x20 < c.toNat ∧ c.toNat ≤ 0x7E

instance (c : Char) : Decidable (IsVisible c) := instDecidableAnd

/-- A name. -/
structure IsName (h : List Char) : Prop where
  ne_nil : h ≠ []
  visible : ∀ c ∈ h, IsVisible c
  apart : ∀ c ∈ [':', '[', ']', ','], c ∉ h

/-- An IPv6 address, which has several colons. -/
structure IsAddress6 (h : List Char) : Prop where
  colons : 2 ≤ h.count ':'
  visible : ∀ c ∈ h, IsVisible c
  apart : ∀ c ∈ ['[', ']', ','], c ∉ h

/-- Digits, if any. -/
def IsDigits (p : List Char) : Prop := ∀ c ∈ p, '0' ≤ c ∧ c ≤ '9'

/-- The forms of a host. -/
inductive Written (h : List Char) : List Char → Prop where
  | name (is_name : IsName h) : Written h h
  | name_port (is_name : IsName h) {p : List Char} (digits : IsDigits p) : Written h (h ++ ':' :: p)
  | address (address : IsAddress6 h) : Written h h
  | brackets (address : IsAddress6 h) : Written h ('[' :: h ++ [']'])
  | brackets_port (address : IsAddress6 h) {p : List Char} (digits : IsDigits p) :
    Written h ('[' :: h ++ ']' :: ':' :: p)

variable {h cs : List Char}

theorem mem_of_written (written : Written h cs) {c : Char} (hc : c ∈ cs) :
    c ∈ h ∨ c ∈ [':', '[', ']'] ∨ ('0' ≤ c ∧ c ≤ '9') := by
  cases written with
  | name | address => exact .inl hc
  | name_port _ digits =>
    simp only [List.mem_append, List.mem_cons] at hc
    rcases hc with there | rfl | there
    · exact .inl there
    · exact .inr (.inl (by simp))
    · exact .inr (.inr (digits c there))
  | brackets =>
    simp only [List.mem_append, List.mem_cons, List.not_mem_nil, or_false] at hc
    rcases hc with (rfl | there) | rfl
    · exact .inr (.inl (by simp))
    · exact .inl there
    · exact .inr (.inl (by simp))
  | brackets_port _ digits =>
    simp only [List.mem_append, List.mem_cons] at hc
    rcases hc with (rfl | there) | rfl | rfl | there
    · exact .inr (.inl (by simp))
    · exact .inl there
    · exact .inr (.inl (by simp))
    · exact .inr (.inl (by simp))
    · exact .inr (.inr (digits c there))

theorem visible_of_digit {c : Char} (digit : '0' ≤ c ∧ c ≤ '9') : IsVisible c ∧ c ≠ ',' := by
  have low : 0x30 ≤ c.toNat := digit.1
  have high : c.toNat ≤ 0x39 := digit.2
  refine ⟨⟨by omega, by omega⟩, ?_⟩
  rintro rfl
  exact absurd low (by decide)

theorem visible_of_host (written : Written h cs) : ∀ c ∈ h, IsVisible c ∧ c ≠ ',' := by
  have apart : ',' ∉ h → ∀ c ∈ h, c ≠ ',' := fun comma c hc same => comma (same ▸ hc)
  cases written with
  | name is_name | name_port is_name =>
    exact fun c hc => ⟨is_name.visible c hc, apart (is_name.apart _ (by simp)) c hc⟩
  | address six | brackets six | brackets_port six =>
    exact fun c hc => ⟨six.visible c hc, apart (six.apart _ (by simp)) c hc⟩

/-- A form has no space and no comma, so it can be an entry of a list. -/
theorem visible_of_written (written : Written h cs) : ∀ c ∈ cs, IsVisible c ∧ c ≠ ',' := by
  intro c hc
  rcases mem_of_written written hc with there | sign | digit
  · exact visible_of_host written c there
  · exact (by decide : ∀ c ∈ [':', '[', ']'], IsVisible c ∧ c ≠ ',') c sign
  · exact visible_of_digit digit

theorem ne_nil_of_written (written : Written h cs) : cs ≠ [] := by
  cases written with
  | name is_name => exact is_name.ne_nil
  | address address =>
    rintro rfl
    exact absurd address.colons (by decide)
  | name_port | brackets | brackets_port => simp

/-! ## Cutting off the port -/

theorem splitLastColon_eq (cs : List Char) : splitLastColon cs = Cut.last? ':' cs := by
  rw [splitLastColon, Cut.last?, Cut.first?]
  cases cs.reverse.dropWhile (· ≠ ':') <;> rfl

theorem stripPort_of_ne_bracket (h : cs.head? ≠ some '[') : stripPort cs =
    match splitLastColon cs with
    | some (name, port) =>
      if !name.contains ':' && port.all (fun c => '0' ≤ c && c ≤ '9') then name else cs
    | none => cs := by
  unfold stripPort
  split
  · exact absurd rfl h
  · rfl

theorem stripPort_bracket (apart : ']' ∉ h) (rest : List Char) :
    stripPort ('[' :: h ++ ']' :: rest) = h := by
  show (h ++ ']' :: rest).takeWhile (· ≠ ']') = h
  rw [List.takeWhile_append_of_pos (Cut.ne_of_not_mem apart)]
  simp

theorem head?_ne_bracket (apart : '[' ∉ h) (rest : List Char) (nil : h ≠ []) :
    (h ++ rest).head? ≠ some '[' := by
  cases h with
  | nil => exact absurd rfl nil
  | cons c h =>
    rintro ⟨⟩
    exact apart List.mem_cons_self

/-- A single colon with digits after it sets off a port. -/
theorem stripPort_port (bracket : '[' ∉ h) (ne_nil : h ≠ []) (colon : ':' ∉ h) {p : List Char}
    (digits : IsDigits p) : stripPort (h ++ ':' :: p) = h := by
  have fresh : ':' ∉ p := by
    intro there
    have digit := digits _ there
    exact absurd digit (by decide)
  rw [stripPort_of_ne_bracket (head?_ne_bracket bracket _ ne_nil), splitLastColon_eq,
    Cut.last?_append fresh]
  have port : p.all (fun c => '0' ≤ c && c ≤ '9') = true := by
    simpa [IsDigits] using digits
  simp [colon, port]

/-- A text with several colons, or with none, stays as it is. -/
theorem stripPort_bare (bracket : '[' ∉ h) (ne_nil : h ≠ []) (colons : h.count ':' ≠ 1) :
    stripPort h = h := by
  have unbracketed := head?_ne_bracket bracket [] ne_nil
  rw [List.append_nil] at unbracketed
  rw [stripPort_of_ne_bracket unbracketed, splitLastColon_eq]
  by_cases colon : ':' ∈ h
  · obtain ⟨before, after, rfl, fresh⟩ := Cut.exists_append_of_mem colon
    have another : ':' ∈ before := by
      by_contra single
      refine colons ?_
      simp [List.count_eq_zero.2 fresh, List.count_eq_zero.2 single]
    rw [Cut.last?_append fresh]
    simp [another]
  · rw [Cut.last?_of_not_mem colon]

/-- **Every form of a host gives the host.** -/
theorem stripPort_of_written (written : Written h cs) : stripPort cs = h := by
  cases written with
  | name is_name =>
    have colon := is_name.apart ':' (by simp)
    exact stripPort_bare (is_name.apart _ (by simp)) is_name.ne_nil
      (by rw [List.count_eq_zero.2 colon]; decide)
  | name_port is_name digits =>
    exact stripPort_port (is_name.apart _ (by simp)) is_name.ne_nil (is_name.apart _ (by simp))
      digits
  | address address =>
    have several := address.colons
    exact stripPort_bare (address.apart _ (by simp)) (ne_nil_of_written (.address address))
      (by omega)
  | brackets address =>
    exact stripPort_bracket (address.apart _ (by simp)) []
  | brackets_port address digits =>
    exact stripPort_bracket (address.apart _ (by simp)) _

/-! ## Headers -/

/-- The headers that name a host: the first entry of the first `X-Forwarded-Host`, with spaces
around it, or the first `Host` if there is no such header. -/
inductive Named (h : String) (headers : Headers) : Prop where
  | forwarded {value : String} (first : headers.first? "x-forwarded-host" = some value)
      (printable : ∀ c ∈ value.toList, c = ' ' ∨ IsVisible c)
      {front back : Nat} {entry rest : List Char}
      (shape : value.toList =
        List.replicate front ' ' ++ entry ++ List.replicate back ' ' ++ rest)
      (ends : rest = [] ∨ rest.head? = some ',') (written : Written h.toList entry)
  | host (absent : headers.first? "x-forwarded-host" = none) {value : String}
      (first : headers.first? "host" = some value) (written : Written h.toList value.toList)

theorem isPlain_of_printable {value : String} (h : ∀ c ∈ value.toList, c = ' ' ∨ IsVisible c) :
    Headers.isPlain value = true := by
  rw [Headers.isPlain, List.all_eq_true]
  intro c hc
  rcases h c hc with rfl | ⟨low, high⟩
  · decide
  · simp [low.le, high]

theorem not_isBlank {c : Char} (h : IsVisible c) : Blank.isBlank c = false := by
  obtain ⟨low, high⟩ := h
  have outside : ∀ n ∈ Blank.codePoints, n ≤ 0x20 ∨ 0x7E < n := by decide
  rw [Blank.isBlank, Bool.eq_false_iff]
  intro blank
  rcases outside _ (List.contains_iff_mem.1 blank) with below | above <;> omega

theorem text?_of_first? {headers : Headers} {name value : String}
    (first : headers.first? name = some value) (plain : Headers.isPlain value = true) :
    headers.text? name = some value := by
  rw [Headers.text?, first]
  simp [plain]

/-- The first entry of a list is found between the spaces around it. -/
theorem firstEntry?_eq {value : String} {front back : Nat} {entry rest : List Char}
    (shape : value.toList = List.replicate front ' ' ++ entry ++ List.replicate back ' ' ++ rest)
    (ends : rest = [] ∨ rest.head? = some ',') (ne_nil : entry ≠ [])
    (visible : ∀ c ∈ entry, IsVisible c ∧ c ≠ ',') : firstEntry? value = some entry := by
  have space (n : Nat) : ∀ c ∈ List.replicate n ' ', c = ' ' := fun c => List.eq_of_mem_replicate
  have inside : ∀ c ∈ List.replicate front ' ' ++ entry ++ List.replicate back ' ',
      decide (c ≠ ',') = true := by
    intro c hc
    simp only [List.mem_append] at hc
    rcases hc with (hc | hc) | hc
    · rw [space front c hc]
      decide
    · simpa using (visible c hc).2
    · rw [space back c hc]
      decide
  have stop : rest.takeWhile (· ≠ ',') = [] := by
    rcases ends with rfl | comma
    · rfl
    · cases rest with
      | nil => rfl
      | cons c rest =>
        obtain rfl := Option.some.inj comma
        rfl
  have blank (n : Nat) : ∀ c ∈ List.replicate n ' ', Blank.isBlank c = true := by
    intro c hc
    rw [space n c hc]
    decide
  have trimmed : Blank.trim (value.toList.takeWhile (· ≠ ',')) = entry := by
    rw [shape, List.takeWhile_append_of_pos inside, stop, List.append_nil]
    have shown (c : Char) (hc : c ∈ entry) : Blank.isBlank c = false := not_isBlank (visible c hc).1
    exact Blank.trimBy_append (blank front) (blank back)
      (fun c hc => shown c (List.mem_of_mem_head? hc))
      fun c hc => shown c (List.mem_of_mem_getLast? hc)
  unfold firstEntry?
  simp only [trimmed, ne_nil, if_false]

/-- **The host that the headers name is the host of the request.** -/
theorem ofHeaders_of_named {h : String} {headers : Headers} (named : Named h headers) :
    ofHeaders headers = h := by
  cases named with
  | forwarded first printable shape ends written =>
    have entry := firstEntry?_eq shape ends (ne_nil_of_written written) (visible_of_written written)
    rw [ofHeaders, rawOfHeaders, text?_of_first? first (isPlain_of_printable printable),
      Option.bind_some, entry]
    dsimp only
    rw [stripPort_of_written written, String.ofList_toList]
  | host absent first written =>
    have plain := isPlain_of_printable fun c hc => .inr (visible_of_written written c hc).1
    have unforwarded : headers.text? "x-forwarded-host" = none := by
      rw [Headers.text?, absent]
      rfl
    rw [ofHeaders, rawOfHeaders, unforwarded, text?_of_first? first plain, Option.bind_none]
    dsimp only [Option.getD_some]
    rw [stripPort_of_written written, String.ofList_toList]

end Host
end ProxyFeed

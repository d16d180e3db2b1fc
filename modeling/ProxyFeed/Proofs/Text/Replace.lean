import ProxyFeed.Link.Basic
import ProxyFeed.Text.Replace
import Mathlib.Data.List.Basic

/-!
# Replacing a text by different ones

Replacing a pattern by two different texts gives two different results, unless the pattern does not
occur at all.  No occurrence extends over a character that is not part of the pattern, so a text can
be cut there and its parts be looked at one by one.

## What is here

* `Replace.all_eq_self` — without an occurrence nothing changes.
* `Replace.all_eq_iff` — replacements by different texts differ exactly if there is an occurrence.
* `Replace.all_append_cons` — a text cut before a character that is not part of the pattern.
* `Replace.all_around_eq_iff` — when replacing leaves the two sides of a text as they are.
-/

set_option autoImplicit false
namespace ProxyFeed
namespace Replace

open Link (occursIn)

/-- How often a pattern is replaced. -/
def count (pattern : List Char) : Nat → List Char → Nat
  | _, [] => 0
  | skip + 1, _ :: cs => count pattern skip cs
  | 0, c :: cs =>
    if pattern.isPrefixOf (c :: cs) then count pattern (pattern.length - 1) cs + 1
    else count pattern 0 cs

/-- How many characters are kept. -/
def kept (pattern : List Char) : Nat → List Char → Nat
  | _, [] => 0
  | skip + 1, _ :: cs => kept pattern skip cs
  | 0, c :: cs =>
    if pattern.isPrefixOf (c :: cs) then kept pattern (pattern.length - 1) cs
    else kept pattern 0 cs + 1

theorem length_walk (pattern new : List Char) (skip : Nat) (text : List Char) :
    (walk pattern new skip text).length =
      kept pattern skip text + count pattern skip text * new.length := by
  fun_induction walk pattern new skip text with
  | case1 => simp [kept, count]
  | case2 skip c cs ih => rw [ih, kept, count]
  | case3 c cs h ih =>
    rw [List.length_append, ih, kept, count, if_pos h, if_pos h, Nat.add_mul, Nat.one_mul]
    omega
  | case4 c cs h ih =>
    rw [List.length_cons, ih, kept, count, if_neg h, if_neg h]
    omega

/-- **Without an occurrence nothing changes.** -/
theorem all_eq_self {pattern text : List Char} (h : occursIn pattern text = false)
    (new : List Char) : all pattern new text = text := by
  rw [all]
  induction text with
  | nil => rfl
  | cons c cs ih =>
    rw [occursIn, Bool.or_eq_false_iff] at h
    rw [walk, h.1, if_neg (by decide), ih h.2]

/-- At the first occurrence the new text stands. -/
theorem exists_walk_eq {pattern : List Char} (ne : pattern ≠ []) :
    ∀ {text : List Char}, occursIn pattern text = true →
      ∃ before after, (∀ new, all pattern new text =
          before ++ (new ++ walk pattern new (pattern.length - 1) after)) ∧
        0 < count pattern 0 text
  | [], h => absurd (List.isEmpty_iff.1 h) ne
  | c :: cs, h => by
    by_cases here : pattern.isPrefixOf (c :: cs)
    · refine ⟨[], cs, fun new => ?_, ?_⟩
      · rw [all, walk, if_pos here, List.nil_append]
      · rw [count, if_pos here]
        omega
    · have later : occursIn pattern cs = true := by simpa [occursIn, here] using h
      obtain ⟨before, after, walks, counted⟩ := exists_walk_eq ne later
      refine ⟨c :: before, after, fun new => ?_, ?_⟩
      · rw [all, walk, if_neg here, ← all, walks, List.cons_append]
      · rwa [count, if_neg here]

/-- **Replacements by different texts differ exactly if the pattern occurs.** -/
theorem all_eq_iff {pattern : List Char} (ne : pattern ≠ []) (new new' text : List Char) :
    all pattern new text = all pattern new' text ↔
      new = new' ∨ occursIn pattern text = false := by
  cases occurs : occursIn pattern text with
  | false => simp [all_eq_self occurs]
  | true =>
    obtain ⟨before, after, walks, counted⟩ := exists_walk_eq ne occurs
    refine ⟨fun same => .inl ?_, ?_⟩
    · have lengths := congrArg List.length same
      rw [all, all, length_walk, length_walk, Nat.add_left_cancel_iff] at lengths
      rw [walks, walks, List.append_cancel_left_eq] at same
      exact (List.append_inj same (Nat.eq_of_mul_eq_mul_left counted lengths)).1
    · rintro (rfl | impossible)
      · rfl
      · cases impossible

theorem occursIn_of_count_eq_zero {pattern : List Char} (ne : pattern ≠ []) {text : List Char}
    (never : count pattern 0 text = 0) : occursIn pattern text = false := by
  cases occurs : occursIn pattern text with
  | false => rfl
  | true =>
    obtain ⟨_, _, -, counted⟩ := exists_walk_eq ne occurs
    omega

/-! ## Cutting -/

section Cut

variable {pattern : List Char} {c : Char} (free : c ∉ pattern)

include free

theorem isPrefixOf_append_cons (front back : List Char) :
    pattern.isPrefixOf (front ++ c :: back) = pattern.isPrefixOf front := by
  induction pattern generalizing front with
  | nil => simp
  | cons p ps ih =>
    obtain ⟨other, later⟩ := not_or.1 (mt List.mem_cons.2 free)
    cases front with
    | nil =>
      rw [List.nil_append, List.isPrefixOf_cons_cons, beq_eq_false_iff_ne.2 (Ne.symm other)]
      rfl
    | cons a front => rw [List.cons_append, List.isPrefixOf, List.isPrefixOf, ih later]

variable (ne : pattern ≠ []) (new : List Char)

include ne

theorem walk_append_cons (skip : Nat) (front back : List Char) (inside : skip ≤ front.length) :
    walk pattern new skip (front ++ c :: back) =
      walk pattern new skip front ++ c :: walk pattern new 0 back := by
  fun_induction walk pattern new skip front with
  | case1 skip =>
    obtain rfl := Nat.le_zero.1 inside
    have apart : ¬pattern.isPrefixOf (c :: back) = true := by
      have none_left := isPrefixOf_append_cons free [] back
      rw [List.nil_append] at none_left
      obtain ⟨p, ps, rfl⟩ := List.exists_cons_of_ne_nil ne
      rw [none_left]
      exact Bool.false_ne_true
    rw [List.nil_append, walk, if_neg apart, List.nil_append]
  | case2 skip a front ih =>
    rw [List.cons_append, walk]
    exact ih (Nat.le_of_succ_le_succ inside)
  | case3 a front here ih =>
    have fits : pattern.length - 1 ≤ front.length := by
      have := (List.isPrefixOf_iff_prefix.1 here).length_le
      simp only [List.length_cons] at this
      omega
    have there : pattern.isPrefixOf (a :: (front ++ c :: back)) = true :=
      (isPrefixOf_append_cons free (a :: front) back).trans here
    rw [List.cons_append, walk, if_pos there, ih fits, List.append_assoc]
  | case4 a front nowhere ih =>
    have still : ¬pattern.isPrefixOf (a :: (front ++ c :: back)) = true := by
      rwa [← List.cons_append, isPrefixOf_append_cons free]
    rw [List.cons_append, walk, if_neg still, ih (Nat.zero_le _), List.cons_append]

/-- **A text is replaced part by part** around a character that is not part of the pattern. -/
theorem all_append_cons (front back : List Char) :
    all pattern new (front ++ c :: back) = all pattern new front ++ c :: all pattern new back :=
  walk_append_cons free ne new 0 front back (Nat.zero_le _)

theorem all_cons (back : List Char) : all pattern new (c :: back) = c :: all pattern new back :=
  all_append_cons free ne new [] back

/-- A text that ends in such a character can be cut there. -/
theorem all_append_of_last (front back : List Char) :
    all pattern new (front ++ [c] ++ back) =
      all pattern new (front ++ [c]) ++ all pattern new back := by
  rw [all_append_cons free ne, List.append_assoc, List.singleton_append, all_append_cons free ne,
    List.append_assoc]
  rfl

omit free in
/-- A text can be cut in front of such a character, or at its end. -/
theorem all_append_of_head {back : List Char} (head : ∀ c ∈ back.head?, c ∉ pattern)
    (front : List Char) :
    all pattern new (front ++ back) = all pattern new front ++ all pattern new back := by
  cases back with
  | nil =>
    rw [List.append_nil]
    exact (List.append_nil _).symm
  | cons c back =>
    have free : c ∉ pattern := head c rfl
    rw [all_append_cons free ne, all_cons free ne]

end Cut

/-! ## The two sides of an occurrence -/

section Around

variable {pattern : List Char} (ne : pattern ≠ [])

include ne

theorem walk_self (skip : Nat) (text : List Char) :
    walk pattern pattern skip text = text.drop skip := by
  fun_induction walk pattern pattern skip text with
  | case1 => simp
  | case2 skip a text ih => rw [ih, List.drop_succ_cons]
  | case3 a text here ih =>
    obtain ⟨rest, shape⟩ := List.isPrefixOf_iff_prefix.1 here
    obtain ⟨p, ps, rfl⟩ := List.exists_cons_of_ne_nil ne
    obtain ⟨rfl, rfl⟩ := List.cons.inj shape
    rw [ih]
    simp
  | case4 a text nowhere ih => rw [ih]; rfl

/-- Replacing the pattern by itself. -/
theorem all_self (text : List Char) : all pattern pattern text = text := walk_self ne 0 text

/-- The pattern itself gives way to the new text. -/
theorem all_pattern (new : List Char) : all pattern new pattern = new := by
  obtain ⟨p, ps, rfl⟩ := List.exists_cons_of_ne_nil ne
  have passed : ∀ rest : List Char, walk (p :: ps) new rest.length rest = [] := by
    intro rest
    induction rest with
    | nil => rfl
    | cons a rest ih => exact ih
  have here : (p :: ps).isPrefixOf (p :: ps) = true := List.isPrefixOf_iff_prefix.2 List.prefix_rfl
  rw [all, walk, if_pos here, List.length_cons, Nat.add_sub_cancel, passed, List.append_nil]

/-- **Replacing leaves both sides of a text as they are** exactly if the new text is the old one or
neither side has an occurrence. -/
theorem all_around_eq_iff (new front middle back : List Char) :
    all pattern new front ++ (middle ++ all pattern new back) = front ++ (middle ++ back) ↔
      new = pattern ∨ occursIn pattern front = false ∧ occursIn pattern back = false := by
  constructor
  · intro same
    -- Either nothing is replaced, or the new text is as long as the old one.
    have lengths := congrArg List.length same
    nth_rewrite 2 [← all_self ne front] at lengths
    nth_rewrite 2 [← all_self ne back] at lengths
    simp only [List.length_append, all, length_walk] at lengths
    have counted : (count pattern 0 front + count pattern 0 back) * new.length =
        (count pattern 0 front + count pattern 0 back) * pattern.length := by
      rw [Nat.add_mul, Nat.add_mul]
      omega
    rcases Nat.eq_zero_or_pos (count pattern 0 front + count pattern 0 back) with none_ | some_
    · exact .inr ⟨occursIn_of_count_eq_zero ne (by omega), occursIn_of_count_eq_zero ne (by omega)⟩
    · have long : new.length = pattern.length := Nat.eq_of_mul_eq_mul_left some_ counted
      have as_long : (all pattern new front).length = front.length := by
        conv_rhs => rw [← all_self ne front]
        rw [all, all, length_walk, length_walk, long]
      obtain ⟨left, rest⟩ := List.append_inj same as_long
      have right := List.append_cancel_left rest
      have in_front := (all_eq_iff ne new pattern front).1 (left.trans (all_self ne front).symm)
      have in_back := (all_eq_iff ne new pattern back).1 (right.trans (all_self ne back).symm)
      rcases in_front with same | front_free
      · exact .inl same
      · exact in_back.imp_right fun back_free => ⟨front_free, back_free⟩
  · rintro (rfl | ⟨left, right⟩)
    · rw [all_self ne, all_self ne]
    · rw [all_eq_self left, all_eq_self right]

end Around

end Replace

end ProxyFeed

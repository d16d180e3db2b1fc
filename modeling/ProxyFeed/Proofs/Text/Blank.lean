import ProxyFeed.Text.Blank
import Mathlib.Data.List.TakeWhile

/-!
# Trimming

Trimming cuts off what stands around a text, and leaves no such character at its ends.

## What is here

* `Blank.trimBy_append` — what stands around a text is trimmed off.
* `Blank.head?_trimBy` and `Blank.getLast?_trimBy` — the ends of a trimmed text.
-/

set_option autoImplicit false
namespace ProxyFeed
namespace Blank

variable {p : Char → Bool} {cs : List Char}

theorem dropWhile_append {front rest : List Char} (blank : ∀ c ∈ front, p c = true)
    (h : ∀ c ∈ rest.head?, p c = false) : (front ++ rest).dropWhile p = rest := by
  rw [List.dropWhile_append_of_pos blank]
  cases rest with
  | nil => rfl
  | cons c rest => simp [h c rfl]

/-- **What stands around a text is trimmed off**, up to its ends. -/
theorem trimBy_append {front back : List Char} (front_blank : ∀ c ∈ front, p c = true)
    (back_blank : ∀ c ∈ back, p c = true) (first : ∀ c ∈ cs.head?, p c = false)
    (last : ∀ c ∈ cs.getLast?, p c = false) : trimBy p (front ++ cs ++ back) = cs := by
  cases cs with
  | nil =>
    have all_blank : ∀ c ∈ front ++ [] ++ back, p c = true := by
      rw [List.append_nil, List.forall_mem_append]
      exact ⟨front_blank, back_blank⟩
    rw [trimBy, List.dropWhile_eq_nil_iff.2 all_blank]
    rfl
  | cons c cs =>
    have first : ∀ d ∈ (c :: cs ++ back).head?, p d = false := first
    rw [trimBy, List.append_assoc, dropWhile_append front_blank first, List.reverse_append,
      dropWhile_append (by simpa using back_blank) (by rwa [List.head?_reverse]),
      List.reverse_reverse]

theorem head?_dropWhile (cs : List Char) (c : Char) (hc : c ∈ (cs.dropWhile p).head?) :
    p c = false := by
  rw [← List.find?_not_eq_head?_dropWhile] at hc
  simpa using List.find?_some hc

theorem getLast?_trimBy (c : Char) (hc : c ∈ (trimBy p cs).getLast?) : p c = false := by
  rw [trimBy, List.getLast?_reverse] at hc
  exact head?_dropWhile _ c hc

/-- What is left of a text after its front was cut is cut at the back only. -/
theorem head?_trimBy (c : Char) (hc : c ∈ (trimBy p cs).head?) : p c = false := by
  obtain ⟨cut, kept⟩ := List.dropWhile_suffix (l := (cs.dropWhile p).reverse) p
  have whole : cs.dropWhile p = trimBy p cs ++ cut.reverse := by
    rw [trimBy, ← List.reverse_append, kept, List.reverse_reverse]
  refine head?_dropWhile cs c ?_
  rw [whole, List.head?_append, Option.mem_def.1 hc]
  rfl

end Blank
end ProxyFeed

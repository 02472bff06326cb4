import Mathlib.Data.List.TakeWhile
import DialectLoader.Text.Blank

/-!
# What trimming leaves

Blank characters at either end of a text make no difference to what is left of it, and a visible
character keeps all that stands on its other side.

Which characters are blank is not looked into; all of this holds for any kind of character that is
dropped at the ends.
-/

namespace DialectLoader.Text

variable {front text back : List Char}

theorem trimEnd_append_blank (blank : ∀ c ∈ back, isBlank c = true) :
    trimEnd (text ++ back) = trimEnd text := by
  have backwards : ∀ c ∈ back.reverse, isBlank c = true := fun c member =>
    blank c (List.mem_reverse.mp member)
  rw [trimEnd, trimEnd, List.reverse_append, List.dropWhile_append_of_pos backwards]

/-- Trimming the end stops at the last visible character, so whatever stands before one is kept as
it is, blanks included. -/
theorem trimEnd_append_visible {c : Char} (visible : isBlank c = false) :
    trimEnd (front ++ c :: text) = front ++ c :: trimEnd text := by
  have backwards : (front ++ c :: text).reverse = text.reverse ++ c :: front.reverse := by simp
  rw [trimEnd, trimEnd, backwards, List.dropWhile_append]
  split
  · rename_i nothing
    rw [List.isEmpty_iff.mp nothing, List.dropWhile_cons_of_neg (by simp [visible])]
    simp
  · simp

/-- A text is what is left at its end, and the blanks that were dropped there. So nothing else is
ever dropped. -/
theorem exists_trimEnd_append (text : List Char) :
    ∃ back, (∀ c ∈ back, isBlank c = true) ∧ text = trimEnd text ++ back := by
  refine ⟨(text.reverse.takeWhile isBlank).reverse, fun c member => ?_, ?_⟩
  · exact List.mem_takeWhile_imp (List.mem_reverse.mp member)
  · rw [trimEnd, ← List.reverse_append, List.takeWhile_append_dropWhile, List.reverse_reverse]

theorem trim_of_blank (blank : ∀ c ∈ text, isBlank c = true) : trim text = [] := by
  rw [trim, trimStart, List.dropWhile_eq_nil_iff.mpr blank]
  rfl

theorem trim_blank_append (blank : ∀ c ∈ front, isBlank c = true) :
    trim (front ++ text) = trim text := by
  rw [trim, trim, trimStart, trimStart, List.dropWhile_append_of_pos blank]

theorem trim_append_blank (blank : ∀ c ∈ back, isBlank c = true) :
    trim (text ++ back) = trim text := by
  by_cases nothing : ∀ c ∈ text, isBlank c = true
  · rw [trim_blank_append nothing, trim_of_blank nothing, trim_of_blank blank]
  · have left : (text.dropWhile isBlank).isEmpty = false := by
      rw [Bool.eq_false_iff]
      intro empty
      exact nothing (List.dropWhile_eq_nil_iff.mp (List.isEmpty_iff.mp empty))
    rw [trim, trimStart, List.dropWhile_append, left, if_neg (by simp), trimEnd_append_blank blank]
    rfl

/-- What was trimmed at its end is trimmed as it would have been before. A line may therefore lose
its blanks in two steps. -/
theorem trim_trimEnd (text : List Char) : trim (trimEnd text) = trim text := by
  obtain ⟨back, blank, spelled⟩ := exists_trimEnd_append text
  conv => rhs; rw [spelled]
  exact (trim_append_blank blank).symm

/-- Blanks around a text with visible ends are dropped and nothing of the text. Its first and its
last character are what trimming stops at. -/
theorem trim_of_visible {before inner after : List Char} {first last : Char}
    (blankBefore : ∀ c ∈ before, isBlank c = true) (blankAfter : ∀ c ∈ after, isBlank c = true)
    (visibleFirst : isBlank first = false) (visibleLast : isBlank last = false) :
    trim (before ++ (first :: (inner ++ [last]) ++ after)) = first :: (inner ++ [last]) := by
  rw [trim_blank_append blankBefore, trim_append_blank blankAfter, trim, trimStart,
    List.dropWhile_cons_of_neg (by simp [visibleFirst]), ← List.cons_append,
    trimEnd_append_visible visibleLast]
  rfl

end DialectLoader.Text

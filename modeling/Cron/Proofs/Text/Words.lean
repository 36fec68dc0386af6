import Cron.Text.Blank

/-! # Words and the blanks around them

The words of a text are what blanks leave of it, so blanks at its two ends make no difference, and a
text in which no blank stands is one word at most.

Main statements: `words_trim` and `length_words_le_one`.
-/

namespace Cron.Text

/-- A blank before a text adds no word. -/
theorem words_cons_of_blank {c : Char} (hc : isBlank c = true) (cs : List Char) :
    words (c :: cs) = words cs := by
  have h := words_append_blank hc [] cs
  rwa [words_nil, List.nil_append, List.nil_append] at h

/-- A blank after a text adds no word. -/
theorem words_append_singleton_of_blank {c : Char} (hc : isBlank c = true) (cs : List Char) :
    words (cs ++ [c]) = words cs := by
  rw [words_append_blank hc, words_nil, List.append_nil]

theorem words_dropWhile (cs : List Char) : words (cs.dropWhile isBlank) = words cs := by
  induction cs with
  | nil => rfl
  | cons c cs ih =>
    rw [List.dropWhile_cons]
    split
    · next hc => rw [ih, words_cons_of_blank hc]
    · rfl

/-- The same at the other end, for a text that is given backwards. -/
theorem words_reverse_dropWhile (cs : List Char) :
    words (cs.dropWhile isBlank).reverse = words cs.reverse := by
  induction cs with
  | nil => rfl
  | cons c cs ih =>
    rw [List.dropWhile_cons]
    split
    · next hc => rw [ih, List.reverse_cons, words_append_singleton_of_blank hc]
    · rfl

/-- Trimming keeps the words. -/
theorem words_trim (cs : List Char) : words (trim cs) = words cs := by
  rw [trim, trimBy, words_reverse_dropWhile, List.reverse_reverse, words_dropWhile]

theorem length_words_le_one {cs : List Char} (h : ∀ c ∈ cs, isBlank c = false) :
    (words cs).length ≤ 1 := by
  by_cases hne : cs = []
  · rw [hne, words_nil]
    exact Nat.zero_le 1
  · rw [words_of_not_blank hne h]
    exact Nat.le_refl 1

end Cron.Text

import Cron.Text.CharRange

/-! # Blank characters

Cron text is laid out freely: blanks around it are dropped, and a run of blanks separates two
words. A blank is any of the 29 white-space characters and separators below, not only the ASCII
ones; characters of no width (U+200B, U+2060, U+FEFF) are not blank.

The main statement is `words_intercalate`: words laid out with single blanks are read back.
-/

namespace Cron.Text

/-! ## The class -/

/-- The blank characters: tab to carriage return, the four information separators and the space,
the next-line control, and the spaces and separators beyond ASCII. -/
def blankRanges : List CharRange :=
  [(0x9, 0xD), (0x1C, 0x20), (0x85, 0x85), (0xA0, 0xA0), (0x1680, 0x1680), (0x2000, 0x200A),
    (0x2028, 0x2029), (0x202F, 0x202F), (0x205F, 0x205F), (0x3000, 0x3000)]

/-- The character is white space in the widest sense. -/
def isBlank (c : Char) : Bool :=
  inRanges blankRanges c

example : (blankRanges.map fun (first, last) => last + 1 - first).sum = 29 := by decide

/-- No decimal digit of ASCII is blank. -/
theorem isBlank_eq_false_of_isDigit {c : Char} (h : c.isDigit = true) : isBlank c = false := by
  have hc := Char.isDigit_iff_toNat.1 h
  simp only [Char.reduceToNat] at hc
  simp [isBlank, inRanges, blankRanges]
  omega

/-! ## Trimming and words -/

/-- The text without the characters of a class at its two ends. -/
def trimBy (p : Char → Bool) (cs : List Char) : List Char :=
  ((cs.dropWhile p).reverse.dropWhile p).reverse

/-- The text without the blanks at its two ends. -/
def trim (cs : List Char) : List Char :=
  trimBy isBlank cs

/-- The maximal blank-free runs of the text, in order. -/
def words (cs : List Char) : List (List Char) :=
  (cs.splitOnP isBlank).filter fun w => !w.isEmpty

/-- No piece of a split satisfies the predicate it was split at. -/
theorem not_mem_of_mem_splitOnP {p : Char → Bool} {cs w : List Char} (h : w ∈ cs.splitOnP p) :
    ∀ c ∈ w, p c = false := by
  induction cs generalizing w with
  | nil =>
    simp only [List.splitOnP_nil, List.mem_singleton] at h
    subst h
    simp
  | cons a cs ih =>
    rw [List.splitOnP_cons_eq_if_modifyHead] at h
    cases ha : p a with
    | true =>
      simp only [ha, if_true, List.mem_cons] at h
      rcases h with rfl | h
      · simp
      · exact ih h
    | false =>
      -- the first piece grows by `a`, the others are pieces of `cs`
      simp only [ha, Bool.false_eq_true, if_false] at h
      cases hs : cs.splitOnP p with
      | nil => exact absurd hs (List.splitOnP_ne_nil p cs)
      | cons u us =>
        simp only [hs, List.modifyHead_cons, List.mem_cons] at h
        rcases h with rfl | h
        · intro c hc
          rcases List.mem_cons.1 hc with rfl | hc
          · exact ha
          · exact ih (hs ▸ List.mem_cons_self) c hc
        · exact ih (hs ▸ List.mem_cons_of_mem u h)

/-- A word is not empty and has no blank in it. -/
theorem ne_nil_and_not_blank_of_mem_words {cs w : List Char} (h : w ∈ words cs) :
    w ≠ [] ∧ ∀ c ∈ w, isBlank c = false := by
  obtain ⟨hw, hne⟩ := List.mem_filter.1 h
  exact ⟨by simpa using hne, not_mem_of_mem_splitOnP hw⟩

theorem words_nil : words [] = [] := by
  simp [words]

/-- A blank separates the words on its two sides. -/
theorem words_append_blank {c : Char} (hc : isBlank c = true) (cs ds : List Char) :
    words (cs ++ c :: ds) = words cs ++ words ds := by
  rw [words, List.splitOnP_append_cons cs ds hc, List.filter_append]
  rfl

/-- A text that is not empty and has no blank in it is one word. -/
theorem words_of_not_blank {w : List Char} (hne : w ≠ []) (h : ∀ c ∈ w, isBlank c = false) :
    words w = [w] := by
  rw [words, List.splitOnP_eq_singleton h]
  simp [hne]

/-- Words with single blanks between them are read back. -/
theorem words_intercalate {c : Char} (hc : isBlank c = true) {ws : List (List Char)}
    (h : ∀ w ∈ ws, w ≠ [] ∧ ∀ a ∈ w, isBlank a = false) : words ([c].intercalate ws) = ws := by
  induction ws with
  | nil => exact words_nil
  | cons w ws ih =>
    have hw := h w List.mem_cons_self
    cases ws with
    | nil => simpa using words_of_not_blank hw.1 hw.2
    | cons v vs =>
      have hrest := ih fun u hu => h u (List.mem_cons_of_mem w hu)
      simp only [List.intercalate_cons_cons, List.append_assoc, List.singleton_append]
      rw [words_append_blank hc, words_of_not_blank hw.1 hw.2, hrest]
      rfl

example : words " \ta  bc\u3000d ".toList = ["a".toList, "bc".toList, "d".toList] := by decide

end Cron.Text

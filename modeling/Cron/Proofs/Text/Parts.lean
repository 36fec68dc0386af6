import Cron.Proofs.Text.Words

/-! # The parts of a sentence

A sentence is taken apart at its commas, and each part into its words. So it does not matter that a
blank follows each comma, and the parts of texts with commas between them are those of the texts.

Main statements: `parts_intercalate`, and `parts_lay` for a text that begins with some words.
-/

namespace Cron.Text

/-- The words of what stands between two commas, for each part of the text. -/
def parts (cs : List Char) : List (List (List Char)) :=
  (cs.splitOn ',').map words

example : parts "At 09:05, on Mon, Wed-Fri".toList =
    [["At".toList, "09:05".toList], ["on".toList, "Mon".toList], ["Wed-Fri".toList]] := by decide

/-- A comma ends a part. -/
theorem parts_append_comma (cs ds : List Char) : parts (cs ++ ',' :: ds) = parts cs ++ parts ds := by
  have hsplit : (cs ++ ',' :: ds).splitOn ',' = cs.splitOn ',' ++ ds.splitOn ',' :=
    List.splitOnP_append_cons cs ds (beq_self_eq_true ',')
  rw [parts, hsplit, List.map_append]
  rfl

/-- A text without commas is one part. -/
theorem parts_of_not_mem {cs : List Char} (h : ',' ∉ cs) : parts cs = [words cs] := by
  rw [parts, List.splitOn_eq_singleton h, List.map_singleton]

/-- What stands before the first comma is the beginning of the first part. -/
theorem splitOn_append_of_not_mem {ws : List Char} (h : ',' ∉ ws) (cs : List Char) :
    (ws ++ cs).splitOn ',' = (cs.splitOn ',').modifyHead (ws ++ ·) := by
  induction ws with
  | nil => cases hs : cs.splitOn ',' <;> simp [hs]
  | cons c ws ih =>
    rw [List.mem_cons, not_or] at h
    have hc : (c == ',') = false := beq_eq_false_iff_ne.2 (Ne.symm h.1)
    have hcons : (c :: (ws ++ cs)).splitOn ',' = ((ws ++ cs).splitOn ',').modifyHead (c :: ·) := by
      rw [List.splitOn, List.splitOnP_cons_eq_if_modifyHead, hc, if_neg Bool.false_ne_true]
      rfl
    rw [List.cons_append, hcons, ih h.2, List.modifyHead_modifyHead]
    rfl

/-- A blank before a text changes no part of it. -/
theorem parts_cons_blank (cs : List Char) : parts (' ' :: cs) = parts cs := by
  have hsplit : (' ' :: cs).splitOn ',' = (cs.splitOn ',').modifyHead (' ' :: ·) :=
    splitOn_append_of_not_mem (by decide : ',' ∉ [' ']) cs
  rw [parts, parts, hsplit]
  cases cs.splitOn ',' with
  | nil => rfl
  | cons w ws =>
    rw [List.modifyHead_cons, List.map_cons, List.map_cons, words_cons_of_blank (by decide)]

/-- The parts of texts with commas between them are those of the texts, in their order. -/
theorem parts_intercalate {texts : List (List Char)} (hne : texts ≠ []) :
    parts ([',', ' '].intercalate texts) = texts.flatMap parts := by
  induction texts with
  | nil => exact absurd rfl hne
  | cons t ts ih =>
    cases ts with
    | nil => rw [List.intercalate_singleton, List.flatMap_singleton]
    | cons u us =>
      have hrest := ih (List.cons_ne_nil u us)
      rw [List.intercalate_cons_cons, List.append_assoc, List.cons_append, List.cons_append,
        List.nil_append, parts_append_comma, parts_cons_blank, hrest]
      rfl

/-! ## Words that stand in sentences -/

/-- **A word of a sentence**: not empty, and with neither a blank nor a comma in it. -/
structure IsWord (w : List Char) : Prop where
  ne_nil : w ≠ []
  not_blank : ∀ c ∈ w, isBlank c = false
  comma_not_mem : ',' ∉ w

/-- The characters of a word are looked at one by one. -/
theorem isWord_iff {w : List Char} :
    IsWord w ↔ w ≠ [] ∧ (w.all fun c => !isBlank c) = true ∧ ',' ∉ w := by
  have hall : (w.all fun c => !isBlank c) = true ↔ ∀ c ∈ w, isBlank c = false := by simp
  rw [hall]
  exact ⟨fun h => ⟨h.ne_nil, h.not_blank, h.comma_not_mem⟩, fun h => ⟨h.1, h.2.1, h.2.2⟩⟩

instance (w : List Char) : Decidable (IsWord w) :=
  decidable_of_iff _ isWord_iff.symm

theorem IsWord.append {w v : List Char} (hw : IsWord w) (hv : IsWord v) : IsWord (w ++ v) where
  ne_nil := List.append_ne_nil_of_left_ne_nil hw.ne_nil v
  not_blank := by
    intro c hc
    exact (List.mem_append.1 hc).elim (hw.not_blank c) (hv.not_blank c)
  comma_not_mem := by
    intro hc
    exact (List.mem_append.1 hc).elim hw.comma_not_mem hv.comma_not_mem

theorem IsWord.parts_eq {w : List Char} (h : IsWord w) : parts w = [[w]] := by
  rw [parts_of_not_mem h.comma_not_mem, words_of_not_blank h.ne_nil h.not_blank]

/-- Words laid out before a text, each with a blank after it. -/
def lay (ws : List (List Char)) (cs : List Char) : List Char :=
  ws.foldr (fun w cs => w ++ ' ' :: cs) cs

/-- A word before a text belongs to the first part of it. -/
theorem IsWord.parts_append {w : List Char} (h : IsWord w) (cs : List Char) :
    parts (w ++ ' ' :: cs) = (parts cs).modifyHead (w :: ·) := by
  have hcomma : ',' ∉ w ++ [' '] := by
    rw [List.mem_append, not_or]
    exact ⟨h.comma_not_mem, by decide⟩
  rw [← List.singleton_append, ← List.append_assoc, parts, parts, splitOn_append_of_not_mem hcomma]
  cases cs.splitOn ',' with
  | nil => rfl
  | cons v vs =>
    rw [List.modifyHead_cons, List.map_cons, List.map_cons, List.modifyHead_cons, List.append_assoc,
      List.singleton_append, words_append_blank (by decide), words_of_not_blank h.ne_nil h.not_blank]
    rfl

/-- Words before a text belong to the first part of it. -/
theorem parts_lay {ws : List (List Char)} (h : ∀ w ∈ ws, IsWord w) (cs : List Char) :
    parts (lay ws cs) = (parts cs).modifyHead (ws ++ ·) := by
  induction ws with
  | nil => cases hparts : parts cs <;> simp [lay, hparts]
  | cons w ws ih =>
    have hrest := ih fun v hv => h v (List.mem_cons_of_mem w hv)
    have hw : IsWord w := h w List.mem_cons_self
    show parts (w ++ ' ' :: lay ws cs) = _
    rw [hw.parts_append, hrest, List.modifyHead_modifyHead]
    rfl

/-! ## Letters and digits -/

/-- No letter or digit of ASCII is blank. -/
theorem isBlank_eq_false_of_isAlphanum {c : Char} (h : c.isAlphanum = true) : isBlank c = false := by
  obtain ⟨r, hr, hle, hge⟩ := inRanges_eq_true_iff.1 (inRanges_of_isAlphanum h)
  -- the three ranges lie between the digit zero and the last small letter
  have hrange : ∀ r ∈ alphanumRanges, 48 ≤ r.1 ∧ r.2 ≤ 122 := by decide
  obtain ⟨hlow, hhigh⟩ := hrange r hr
  simp only [isBlank, inRanges, blankRanges, List.any_cons, List.any_nil, Bool.or_false,
    Bool.or_eq_false_iff, Bool.and_eq_false_iff, decide_eq_false_iff_not]
  omega

theorem isWord_of_isAlphanum {w : List Char} (hne : w ≠ []) (h : ∀ c ∈ w, c.isAlphanum = true) :
    IsWord w where
  ne_nil := hne
  not_blank := fun c hc => isBlank_eq_false_of_isAlphanum (h c hc)
  comma_not_mem := fun hc => absurd (h _ hc) (by decide)

end Cron.Text

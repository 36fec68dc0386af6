import Cron.Proofs.Text.Words
import Mathlib.Data.List.TakeWhile

/-! # Trimmed texts

Trimming takes away all characters of a class at the two ends of a text, and none within. What is
left is the one text without such ends from which the whole is had by adding characters of the class
before and after. A text of a single word is that word with blanks around it.

Main statements: `trimBy_eq_iff`, `trim_trim` and `trim_eq_of_words_eq`.
-/

namespace Cron.Text

variable {p : Char → Bool} {cs ts : List Char}

/-! ## The ends of a text -/

/-- **Trimmed**: neither the first nor the last character is in the class. -/
structure Trimmed (p : Char → Bool) (ts : List Char) : Prop where
  first : ∀ c ∈ ts.head?, p c = false
  last : ∀ c ∈ ts.getLast?, p c = false

/-- Characters of the class are dropped up to a text that does not begin with one. -/
theorem dropWhile_append_eq {before : List Char} (hbefore : ∀ c ∈ before, p c = true)
    (h : ∀ c ∈ ts.head?, p c = false) : (before ++ ts).dropWhile p = ts := by
  rw [List.dropWhile_append_of_pos hbefore]
  cases ts with
  | nil => rfl
  | cons c ts => exact List.dropWhile_cons_of_neg (Bool.eq_false_iff.1 (h c rfl))

theorem head?_dropWhile (p : Char → Bool) (cs : List Char) :
    ∀ c ∈ (cs.dropWhile p).head?, p c = false := by
  intro c hc
  have hnot := List.head?_dropWhile_not p cs
  rw [Option.mem_def.1 hc] at hnot
  exact hnot

/-- What stands around a trimmed text is taken away. -/
theorem trimBy_append {before after : List Char} (hbefore : ∀ c ∈ before, p c = true)
    (hts : Trimmed p ts) (hafter : ∀ c ∈ after, p c = true) :
    trimBy p (before ++ ts ++ after) = ts := by
  cases ts with
  | nil =>
    -- nothing but characters of the class, and all of them are dropped at once
    have hall : (before ++ [] ++ after).dropWhile p = [] := by
      rw [List.append_nil, List.dropWhile_append_of_pos hbefore]
      exact List.dropWhile_eq_nil_iff.2 hafter
    rw [trimBy, hall]
    rfl
  | cons c ts =>
    have hfront : ((c :: ts) ++ after).head? = some c := rfl
    have hback : (after.reverse ++ (c :: ts).reverse).dropWhile p = (c :: ts).reverse := by
      refine dropWhile_append_eq (fun d hd => hafter d (List.mem_reverse.1 hd)) ?_
      rw [List.head?_reverse]
      exact hts.last
    rw [trimBy, List.append_assoc, dropWhile_append_eq hbefore (hfront ▸ hts.first),
      List.reverse_append, hback, List.reverse_reverse]

/-- Trimming leaves a trimmed text, with characters of the class around it. -/
theorem exists_eq_append_trimBy (p : Char → Bool) (cs : List Char) :
    Trimmed p (trimBy p cs) ∧ ∃ before after, (∀ c ∈ before, p c = true) ∧
      (∀ c ∈ after, p c = true) ∧ cs = before ++ trimBy p cs ++ after := by
  let rest := cs.dropWhile p
  let after := (rest.reverse.takeWhile p).reverse
  have hrest : rest = trimBy p cs ++ after := by
    rw [trimBy, ← List.reverse_append, List.takeWhile_append_dropWhile, List.reverse_reverse]
  have hlast : ∀ c ∈ (trimBy p cs).getLast?, p c = false := by
    rw [trimBy, List.getLast?_reverse]
    exact head?_dropWhile p rest.reverse
  have hfirst : ∀ c ∈ (trimBy p cs).head?, p c = false := by
    intro c hc
    apply head?_dropWhile p cs
    show c ∈ rest.head?
    rw [hrest, List.head?_append, Option.mem_def.1 hc]
    rfl
  refine ⟨⟨hfirst, hlast⟩, cs.takeWhile p, after, fun _ => List.mem_takeWhile_imp,
    fun c hc => List.mem_takeWhile_imp (List.mem_reverse.1 hc), ?_⟩
  rw [List.append_assoc, ← hrest]
  exact List.takeWhile_append_dropWhile.symm

/-- **Trimming** a text gives the one trimmed text within characters of the class. -/
theorem trimBy_eq_iff : trimBy p cs = ts ↔ Trimmed p ts ∧ ∃ before after,
    (∀ c ∈ before, p c = true) ∧ (∀ c ∈ after, p c = true) ∧ cs = before ++ ts ++ after := by
  constructor
  · rintro rfl
    exact exists_eq_append_trimBy p cs
  · rintro ⟨hts, before, after, hbefore, hafter, rfl⟩
    exact trimBy_append hbefore hts hafter

/-- Trimming twice is trimming once. -/
theorem trim_trim (cs : List Char) : trim (trim cs) = trim cs :=
  trimBy_eq_iff.2 ⟨(exists_eq_append_trimBy isBlank cs).1, [], [], nofun, nofun,
    (List.append_nil _).symm⟩

/-! ## Texts of one word -/

/-- A character that is not blank belongs to a word. -/
theorem words_ne_nil_of_mem {c : Char} (hc : c ∈ cs) (hblank : isBlank c = false) :
    words cs ≠ [] := by
  induction cs with
  | nil => cases hc
  | cons d cs ih =>
    cases hd : isBlank d with
    | true =>
      have hne : c ≠ d := by
        rintro rfl
        rw [hblank] at hd
        cases hd
      rw [words_cons_of_blank hd]
      exact ih ((List.mem_cons.1 hc).resolve_left hne)
    | false =>
      -- the first piece holds `d`, so it is a word
      intro hnil
      rw [words, List.splitOnP_cons_eq_if_modifyHead, hd, if_neg Bool.false_ne_true] at hnil
      cases hs : cs.splitOnP isBlank with
      | nil => exact absurd hs (List.splitOnP_ne_nil isBlank cs)
      | cons w ws =>
        rw [hs] at hnil
        cases hnil

/-- A blank within a trimmed text has words on its two sides. -/
theorem exists_words_of_blank_mem {c : Char} (hts : Trimmed isBlank ts) (hc : c ∈ ts)
    (hblank : isBlank c = true) : ∃ us vs, words ts = us ++ vs ∧ us ≠ [] ∧ vs ≠ [] := by
  obtain ⟨before, after, rfl⟩ := List.append_of_mem hc
  refine ⟨words before, words after, words_append_blank hblank before after, ?_, ?_⟩
  · cases before with
    | nil =>
      rw [hts.first c rfl] at hblank
      cases hblank
    | cons d before => exact words_ne_nil_of_mem List.mem_cons_self (hts.first d rfl)
  · rcases List.eq_nil_or_concat after with rfl | ⟨after, d, rfl⟩
    · rw [hts.last c List.getLast?_concat] at hblank
      cases hblank
    · have hlast : d ∈ (before ++ c :: after.concat d).getLast? := by
        rw [List.concat_eq_append, ← List.cons_append, ← List.append_assoc]
        exact List.getLast?_concat
      have hd : d ∈ after.concat d := by
        rw [List.concat_eq_append]
        exact List.mem_append_right after List.mem_cons_self
      exact words_ne_nil_of_mem hd (hts.last d hlast)

/-- **A single word** is what trimming leaves. -/
theorem trim_eq_of_words_eq {w : List Char} (h : words cs = [w]) : trim cs = w := by
  have hwords : words (trim cs) = [w] := (words_trim cs).trans h
  have hne : trim cs ≠ [] := by
    intro hnil
    rw [hnil, words_nil] at hwords
    cases hwords
  have hblank : ∀ c ∈ trim cs, isBlank c = false := by
    intro c hc
    rw [← Bool.not_eq_true]
    intro hcb
    obtain ⟨us, vs, hsplit, hus, hvs⟩ :=
      exists_words_of_blank_mem (exists_eq_append_trimBy isBlank cs).1 hc hcb
    have hsingle : us ++ vs = [w] := hsplit.symm.trans hwords
    rcases List.append_eq_singleton_iff.1 hsingle with ⟨hnil, -⟩ | ⟨-, hnil⟩
    · exact hus hnil
    · exact hvs hnil
  rw [words_of_not_blank hne hblank] at hwords
  exact List.head_eq_of_cons_eq hwords

end Cron.Text

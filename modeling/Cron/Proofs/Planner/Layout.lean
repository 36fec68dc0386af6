import Cron.Proofs.Expression.Layout
import Cron.Proofs.Planner.Faults

/-! # Answers and the layout of texts

All answers of a planner come from the words of a text, or from what the text is a name of. So a
text is answered like the text of its words with single spaces between them, and like the one it is
expanded to; only the sentence tells a name from the expression it stands for, and only the record of
a rejection cites the text as it was written.

Main statements: `fst_parse_eq_ok_iff`, `AnsweredAlike.of_words_eq`, `answeredAlike_expand` and
`layout_does_not_matter`.
-/

namespace Cron

open Calendar Text

/-! ## The five words -/

/-- **The words of a text**: those of the expression it names, or its own if there are five. -/
theorem fst_parse_eq_ok_iff {text : String} {texts : FieldTexts} :
    (parse text).1 = .ok texts ↔
      (∃ a, Alias.find? text = some a ∧
        words a.expansion.toList = texts.toList.map String.toList) ∨
      words text.toList = texts.toList.map String.toList := by
  rw [fst_parse, FieldTexts.read_eq_ok_iff]
  cases hname : Alias.find? text with
  | none => simp [Alias.words_expand hname]
  | some a =>
    obtain ⟨w, hword⟩ := Alias.exists_words_eq_of_find? hname
    -- a name is one word and not five
    have hcount : words text.toList ≠ texts.toList.map String.toList := by
      rw [hword]
      intro h
      cases h
    simp [Alias.expand, hname, hcount]

theorem FieldTexts.exists_read_iff {text : String} :
    (∃ texts, FieldTexts.read text = .ok texts) ↔ (words text.toList).length = 5 := by
  have hnone : Fields.ofList? ((words text.toList).map String.ofList) = none ↔
      (words text.toList).length ≠ 5 := by
    rw [Fields.ofList?_eq_none_iff, List.length_map]
  unfold FieldTexts.read
  split
  · next texts hsome =>
    rw [hsome] at hnone
    exact iff_of_true ⟨texts, rfl⟩ (not_not.1 (mt hnone.2 nofun))
  · next hfew => exact iff_of_false nofun (hnone.1 hfew)

/-- Five words are what a text has to have, if it is no name. -/
theorem exists_fst_parse_eq_ok_iff {text : String} :
    (∃ texts, (parse text).1 = .ok texts) ↔
      (∃ a, Alias.find? text = some a) ∨ (words text.toList).length = 5 := by
  rw [fst_parse]
  cases hname : Alias.find? text with
  | none => simp [FieldTexts.exists_read_iff, Alias.words_expand hname]
  | some a =>
    obtain ⟨e, he⟩ := Alias.exists_ofTexts_of_mem_all (Alias.mem_all_of_find? hname).1
    obtain ⟨texts, htexts, -⟩ := exists_of_bind_eq_ok he
    refine iff_of_true ⟨texts, ?_⟩ (Or.inl ⟨a, rfl⟩)
    rw [Alias.expand, hname]
    exact htexts

/-! ## Texts with the same answers -/

/-- The answer to a search with the planner after it, records left out. -/
def withoutRecords (answer : Except LoadError (Logged (Option Instant) × Planner)) :
    Except LoadError (Option Instant × Planner) :=
  answer.map fun ((instant, _), p) => (instant, p)

/-- **Answered alike**: the two texts have the same words and the same faults, and from every
planner, in every environment and after every instant the same next instant. -/
structure AnsweredAlike (text text' : String) : Prop where
  parse : (Cron.parse text').1 = (Cron.parse text).1
  validate : (Cron.validate text').1 = (Cron.validate text).1
  next : ∀ (p : Planner) (env : Environment) (reference : Instant),
    withoutRecords (p.next env text' reference) = withoutRecords (p.next env text reference)

variable {text text' : String}

/-- The answers come from the two stages of reading. -/
theorem AnsweredAlike.of_read_eq
    (hwords : FieldTexts.read (Alias.expand text') = FieldTexts.read (Alias.expand text))
    (hread : Expression.read text' = Expression.read text) : AnsweredAlike text text' where
  parse := by rw [fst_parse, fst_parse, hwords]
  validate := by rw [Cron.validate, Cron.validate, fst_withRejection, fst_withRejection, hread]
  next := by
    intro p env reference
    cases h : Expression.read text with
    | ok e => rw [Planner.next_of_ok h, Planner.next_of_ok (hread.trans h)]
    | error err =>
      -- the two records cite different texts
      rw [Planner.next_of_error h, Planner.next_of_error (hread.trans h)]
      simp only [withoutRecords, Except.map]

theorem AnsweredAlike.of_words_eq (h : words text'.toList = words text.toList) :
    AnsweredAlike text text' :=
  .of_read_eq (FieldTexts.read_expand_congr h) (Expression.read_congr h)

theorem answeredAlike_expand (text : String) : AnsweredAlike text (Alias.expand text) :=
  .of_read_eq (by rw [Alias.expand_expand]) (Expression.read_expand text)

/-! ## Layout and names -/

/-- **Layout does not matter, and names stand for expressions.** A text has five words to be read as
fields just if it is a name, blanks and letter case aside, or is made of five words itself; they are
those of the expression named, or its own. With single spaces between its words a text is answered
and described as before. Names are replaced once and for all, and what a text is expanded to is
answered like the text; it is described alike as well just if the text is no name. -/
theorem layout_does_not_matter (text : String) :
    (∀ texts : FieldTexts, (parse text).1 = .ok texts ↔
      (∃ a ∈ Alias.all, a.name.toList = lowerCase (trim text.toList) ∧
        words a.expansion.toList = texts.toList.map String.toList) ∨
      words text.toList = texts.toList.map String.toList) ∧
    ((∃ texts, (parse text).1 = .ok texts) ↔
      (∃ a ∈ Alias.all, a.name.toList = lowerCase (trim text.toList)) ∨
      (words text.toList).length = 5) ∧
    AnsweredAlike text (respaced text) ∧ describe (respaced text) = describe text ∧
    Alias.expand (Alias.expand text) = Alias.expand text ∧
    AnsweredAlike text (Alias.expand text) ∧
    (describe (Alias.expand text) = describe text ↔
      ¬ ∃ a ∈ Alias.all, a.name.toList = lowerCase (trim text.toList)) := by
  have hname : Alias.find? text = none ↔
      ¬ ∃ a ∈ Alias.all, a.name.toList = lowerCase (trim text.toList) := by
    simp only [Option.eq_none_iff_forall_ne_some, ne_eq, Alias.find?_eq_some_iff, not_exists,
      not_and]
  refine ⟨?words, ?count, .of_words_eq (words_respaced text),
    describe_congr (words_respaced text), Alias.expand_expand text, answeredAlike_expand text,
    (describe_expand_eq_iff text).trans hname⟩
  case words =>
    intro texts
    simp only [fst_parse_eq_ok_iff, Alias.find?_eq_some_iff, and_assoc]
  case count => simp only [exists_fst_parse_eq_ok_iff, Alias.find?_eq_some_iff]

example : parse " \u3000@WEe\u212aly\t" = (.ok ⟨"0", "0", "*", "*", "0"⟩, []) := by decide +kernel
example : respaced "\t0  0 1\u2003* *\n" = "0 0 1 * *" := by decide +kernel

end Cron

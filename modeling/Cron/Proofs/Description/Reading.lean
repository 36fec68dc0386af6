import Cron.Proofs.Description.Clauses

/-! # Sentences are read back, field by field

The words of a part tell whether it opens a clause, and for which field: what opens a clause has
several words, and the further terms of a list have one word each. So the clause for a field is found
in a sentence again, from the part that opens it up to the next part that opens one.

Main statements: `topic_eq_some`, what the parts of clauses are about, and `about_flatMap`, that
clauses laid side by side are found again.
-/

namespace Cron

open Text

/-! ## What a part is about -/

/-- The field of a range, told by the word after `from`: minutes and days are called so, hours have
a colon, and the others have names. -/
def rangeTopic (w : List Char) : FieldName :=
  if w = "minute".toList then .minute
  else if w = "day".toList then .day
  else if ':' ∈ w then .hour
  else if w ∈ monthNames.map String.toList then .month
  else .weekday

/-- **The topic of a part**: the field whose clause it opens, if it opens one. -/
def topic : List (List Char) → Option FieldName
  | [] => none
  | [_] => none
  | first :: second :: rest =>
    if first = "every".toList then
      match rest with
      | [] => some .minute
      | noun :: _ => FieldName.all.find? fun f => noun = f.nounWord 1 ∨ noun = f.nounWord 2
    else if first = "from".toList then some (rangeTopic second)
    else
      FieldName.all.find? fun f =>
        (first :: second :: rest).dropLast = f.valueWords ∨
          (first :: second :: rest).dropLast = f.listWords

example : ["every 2 weekdays from Mon to Fri", "from 09:00 to 17:59", "in Jan", "Mar"].map
    (fun part => topic (words part.toList)) = [some .weekday, some .hour, some .month, none] := by
  decide

theorem topic_value (f : FieldName) (w : List Char) : topic (f.valueWords ++ [w]) = some f := by
  cases f <;> rfl

theorem topic_list (f : FieldName) (w : List Char) : topic (f.listWords ++ [w]) = some f := by
  cases f <;> rfl

/-- The noun of an interval is in the singular or in the plural. -/
theorem nounWord_eq (f : FieldName) (interval : Int) :
    f.nounWord interval = f.nounWord 1 ∨ f.nounWord interval = f.nounWord 2 := by
  unfold FieldName.nounWord
  by_cases h : 1 < interval
  · exact Or.inr (by simp [h])
  · exact Or.inl (by simp [h])

theorem topic_step (f : FieldName) (base : Base) (interval : Int) :
    topic (f.stepPart base interval) = some f := by
  unfold FieldName.stepPart
  rcases nounWord_eq f interval with hnoun | hnoun
  all_goals
    rw [hnoun]
    cases f <;> rfl

/-- The word after `from` tells the field. -/
theorem rangeTopic_write {f : FieldName} (hf : f = .month ∨ f = .weekday) {v : Int}
    (h : v ∈ f.domain) : rangeTopic (f.phrases.writeEnd v).toList = f := by
  have hnames : ∀ f ∈ [FieldName.month, .weekday], ∀ v ∈ f.domain.values,
      rangeTopic (f.phrases.writeEnd v).toList = f := by decide +kernel
  exact hnames f (by simpa using hf) v (Domain.mem_values_iff.2 h)

theorem rangeTopic_hour (w : List Char) : rangeTopic (w ++ ":00".toList) = .hour := by
  have hcolon : ':' ∈ w ++ ":00".toList := List.mem_append_right w (by decide)
  have hne {name : List Char} (h : ':' ∉ name) : w ++ ":00".toList ≠ name := by
    rintro rfl
    exact h hcolon
  rw [rangeTopic, if_neg (hne (by decide)), if_neg (hne (by decide)), if_pos hcolon]

theorem topic_range {f : FieldName} {first last : Int} (h : first ∈ f.domain) :
    topic (f.rangePart first last) = some f := by
  cases f with
  | minute => rfl
  | hour => exact congrArg some (rangeTopic_hour _)
  | day => rfl
  | month => exact congrArg some (rangeTopic_write (Or.inl rfl) h)
  | weekday => exact congrArg some (rangeTopic_write (Or.inr rfl) h)

/-- A time of the clock is about two fields, and opens the clause of neither. -/
theorem topic_clock (hour minute : Int) : topic (Expression.clockPart hour minute) = none :=
  rfl

/-! ## Clauses side by side -/

/-- **A clause for a field**: no part at all, or a part about the field and parts that open no
clause. -/
inductive IsClause (f : FieldName) : List (List (List Char)) → Prop
  | nil : IsClause f []
  | cons {part : List (List Char)} {items : List (List (List Char))} (topic_eq : topic part = some f)
    (items_topic : ∀ item ∈ items, topic item = none) : IsClause f (part :: items)

theorem isClause_clauseParts {f : FieldName} {terms : List Term}
    (h : ∀ t ∈ terms, t.WellFormed f.domain) : IsClause f (f.clauseParts terms) := by
  have hsingle {part : List (List Char)} (hpart : topic part = some f) : IsClause f [part] :=
    .cons hpart fun _ hitem => absurd hitem List.not_mem_nil
  match terms, h with
  | [], _ => exact .nil
  | [.plain .wildcard], _ =>
    rw [FieldName.clauseParts]
    split
    · next hf =>
      subst hf
      exact hsingle rfl
    · exact .nil
  | [.plain (.single value)], _ => exact hsingle (topic_value f _)
  | [.plain (.range first last)], h =>
    exact hsingle (topic_range (FieldName.ends_mem (h _ List.mem_cons_self)).1)
  | [.step base interval], _ => exact hsingle (topic_step f base interval)
  | t :: u :: ts, _ =>
    rw [FieldName.clauseParts_list]
    refine .cons (topic_list f _) ?_
    intro item hitem
    obtain ⟨v, -, rfl⟩ := List.mem_map.1 hitem
    rfl

/-- The parts about a field: from the one that opens its clause up to the next that opens one. -/
def about (f : FieldName) (ps : List (List (List Char))) : List (List (List Char)) :=
  match ps.dropWhile fun part => topic part ≠ some f with
  | [] => []
  | part :: rest => part :: rest.takeWhile fun item => topic item = none

/-- Parts that do not open the clause for the field are passed over. -/
theorem about_append {f : FieldName} {ps : List (List (List Char))}
    (h : ∀ part ∈ ps, topic part ≠ some f) (qs : List (List (List Char))) :
    about f (ps ++ qs) = about f qs := by
  have hskip : ∀ part ∈ ps, decide (topic part ≠ some f) = true :=
    fun part hpart => decide_eq_true (h part hpart)
  rw [about, about, List.dropWhile_append_of_pos hskip]

section flatMap

variable {P : FieldName → List (List (List Char))} (hP : ∀ f, IsClause f (P f))

include hP

/-- Among the clauses for some fields no part is about another field. -/
theorem mem_of_topic_eq {fs : List FieldName} {part : List (List Char)}
    (hpart : part ∈ fs.flatMap P) {f : FieldName} (htopic : topic part = some f) : f ∈ fs := by
  obtain ⟨g, hg, hmem⟩ := List.mem_flatMap.1 hpart
  have hclause := hP g
  generalize P g = ps at hclause hmem
  cases hclause with
  | nil => cases hmem
  | cons topic_eq items_topic =>
    rcases List.mem_cons.1 hmem with rfl | hmem
    · rw [htopic] at topic_eq
      exact Option.some.inj topic_eq ▸ hg
    · rw [items_topic part hmem] at htopic
      cases htopic

/-- The clauses for some fields begin with a part that opens one. -/
theorem takeWhile_flatMap (fs : List FieldName) :
    (fs.flatMap P).takeWhile (fun item => topic item = none) = [] := by
  induction fs with
  | nil => rfl
  | cons f fs ih =>
    rw [List.flatMap_cons]
    have hclause := hP f
    generalize P f = ps at hclause
    cases hclause with
    | nil => exact ih
    | cons topic_eq => simp [topic_eq]

/-- **Clauses side by side** are found again, each by its field. -/
theorem about_flatMap {fs : List FieldName} (hfs : fs.Nodup) {f : FieldName} (hf : f ∈ fs) :
    about f (fs.flatMap P) = P f := by
  induction fs with
  | nil => cases hf
  | cons g fs ih =>
    obtain ⟨hg, hfs⟩ := List.nodup_cons.1 hfs
    have hclause := hP g
    rw [List.flatMap_cons]
    by_cases hgf : g = f
    · subst hgf
      generalize P g = ps at hclause ⊢
      cases hclause with
      | nil =>
        -- without a clause for the field, all that follows is about other ones
        have hskip : ∀ part ∈ fs.flatMap P, topic part ≠ some g :=
          fun part hpart htopic => hg (mem_of_topic_eq hP hpart htopic)
        have habout := about_append hskip []
        rwa [List.append_nil] at habout
      | cons topic_eq items_topic =>
        -- the items go on up to the next part that opens a clause
        have hitems : ∀ item ∈ _, decide (topic item = none) = true :=
          fun item hitem => decide_eq_true (items_topic item hitem)
        rw [about, List.cons_append, List.dropWhile_cons_of_neg (by simp [topic_eq])]
        simp only [List.takeWhile_append_of_pos hitems, takeWhile_flatMap hP, List.append_nil]
    · -- the clause for another field is passed over
      have hskip : ∀ part ∈ P g, topic part ≠ some f := by
        intro part hpart htopic
        have hmem : f ∈ [g] := mem_of_topic_eq hP (by simpa using hpart) htopic
        exact hgf (List.mem_singleton.1 hmem).symm
      have hf' : f ∈ fs := (List.mem_cons.1 hf).resolve_left fun h => hgf h.symm
      rw [about_append hskip, ih hfs hf']

end flatMap

end Cron

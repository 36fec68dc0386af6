import Cron.Proofs.Description.Values

/-! # Clauses as words

The clause for a field begins with a part of several words, and a list goes on with one word for
each further term. What these words are is said here by the terms of the field, once for the phrases
of all fields.

Main statements: `FieldName.parts_clause?`, and `Expression.parts_sentence` for a whole sentence.
-/

namespace Cron

open Text

/-- A term is printed as it is written in a field. -/
theorem Term.toList_toString (t : Term) : (toString t).toList = t.render :=
  String.toList_ofList

/-- Several terms are a list, whatever they are. -/
theorem Phrases.clause?_list (p : Phrases) (t u : Term) (ts : List Term) :
    p.clause? (t :: u :: ts) = some (p.among (", ".intercalate ((t :: u :: ts).map p.item))) := by
  cases t <;> rfl

/-- A field that says something of a bare `*` has a clause for all lists of terms. -/
theorem Phrases.isSome_clause? {p : Phrases} (h : p.always?.isSome) (terms : List Term) :
    (p.clause? terms).isSome := by
  unfold clause?
  split
  · next base =>
    cases base with
    | wildcard => exact h
    | _ => rfl
  · rfl
  · rfl

/-! ## The words of phrases -/

namespace FieldName

/-- The words before a single value. -/
def valueWords : FieldName → List (List Char)
  | minute => ["at".toList, "minute".toList]
  | hour => ["at".toList, "hour".toList]
  | day => ["on".toList, "day".toList]
  | month => ["in".toList]
  | weekday => ["on".toList]

/-- The words before the first term of a list. -/
def listWords : FieldName → List (List Char)
  | minute => ["at".toList, "minutes".toList]
  | hour => ["at".toList, "hours".toList]
  | day => ["on".toList, "days".toList]
  | month => ["in".toList]
  | weekday => ["on".toList]

/-- The words before the first end of a range. -/
def rangeWords : FieldName → List (List Char)
  | minute => ["from".toList, "minute".toList]
  | day => ["from".toList, "day".toList]
  | _ => ["from".toList]

/-- The words before the value from which an interval counts. -/
def onwardWords : FieldName → List (List Char)
  | hour => ["starting".toList, "at".toList]
  | f => "starting".toList :: f.valueWords

/-- The word for the first end of a range: an hour begins with its first minute. -/
def firstWord : FieldName → List Char → List Char
  | hour, w => w ++ ":00".toList
  | _, w => w

/-- The word for the last end of a range: an hour ends with its last minute. -/
def lastWord : FieldName → List Char → List Char
  | hour, w => w ++ ":59".toList
  | _, w => w

section phrases

variable (f : FieldName) (v first last : String)

theorem toList_only : (f.phrases.only v).toList = lay f.valueWords v.toList := by
  cases f <;> simp [phrases, valueWords, lay]

theorem toList_among : (f.phrases.among v).toList = lay f.listWords v.toList := by
  cases f <;> simp [phrases, listWords, lay]

theorem toList_between : (f.phrases.between first last).toList =
    lay (f.rangeWords ++ [f.firstWord first.toList, "to".toList]) (f.lastWord last.toList) := by
  cases f <;> simp [phrases, rangeWords, firstWord, lastWord, lay]

theorem toList_onward : (f.phrases.onward v).toList =
    lay f.onwardWords (f.firstWord v.toList) := by
  cases f <;> simp [phrases, onwardWords, valueWords, firstWord, lay]

end phrases

/-- All words of the phrases can stand in a sentence. -/
theorem isWord_phraseWords (f : FieldName) :
    (∀ w ∈ f.valueWords, IsWord w) ∧ (∀ w ∈ f.listWords, IsWord w) ∧
      (∀ w ∈ f.rangeWords, IsWord w) ∧ ∀ w ∈ f.onwardWords, IsWord w := by
  cases f <;> decide

theorem isWord_firstWord (f : FieldName) {w : List Char} (h : IsWord w) : IsWord (f.firstWord w) := by
  cases f with
  | hour => exact h.append (by decide)
  | _ => exact h

theorem isWord_lastWord (f : FieldName) {w : List Char} (h : IsWord w) : IsWord (f.lastWord w) := by
  cases f with
  | hour => exact h.append (by decide)
  | _ => exact h

/-! ## The words of clauses -/

/-- The word for what an interval counts. -/
def nounWord (f : FieldName) (interval : Int) : List Char :=
  f.phrases.noun.toList ++ if 1 < interval then ['s'] else []

/-- The words of a range. -/
def rangePart (f : FieldName) (first last : Int) : List (List Char) :=
  f.rangeWords ++ [f.firstWord (f.phrases.writeEnd first).toList, "to".toList,
    f.lastWord (f.phrases.writeEnd last).toList]

/-- The words for what an interval is counted over. -/
def scopeWords (f : FieldName) : Base → List (List Char)
  | .wildcard => []
  | .single value => f.onwardWords ++ [f.firstWord (f.phrases.write value).toList]
  | .range first last => f.rangePart first last

/-- The words of an interval. -/
def stepPart (f : FieldName) (base : Base) (interval : Int) : List (List Char) :=
  "every".toList :: interval.repr.toList :: f.nounWord interval :: f.scopeWords base

/-- The parts of the clause for the terms of a field. -/
def clauseParts (f : FieldName) : List Term → List (List (List Char))
  | [] => []
  | [.plain .wildcard] => if f = minute then [["every".toList, "minute".toList]] else []
  | [.plain (.single value)] => [f.valueWords ++ [(f.phrases.write value).toList]]
  | [.plain (.range first last)] => [f.rangePart first last]
  | [.step base interval] => [f.stepPart base interval]
  | t :: ts =>
    (f.listWords ++ [(f.phrases.item t).toList]) :: ts.map fun u => [(f.phrases.item u).toList]

theorem clauseParts_list (f : FieldName) (t u : Term) (ts : List Term) :
    f.clauseParts (t :: u :: ts) = (f.listWords ++ [(f.phrases.item t).toList]) ::
      (u :: ts).map fun v => [(f.phrases.item v).toList] := by
  match t with
  | .plain .wildcard => rfl
  | .plain (.single _) => rfl
  | .plain (.range _ _) => rfl
  | .step _ _ => rfl

theorem isWord_nounWord (f : FieldName) (interval : Int) : IsWord (f.nounWord interval) := by
  unfold nounWord
  cases f <;> split <;> decide

/-! ## Parts of clauses -/

variable {f : FieldName}

theorem parts_only {value : Int} (hv : value ∈ f.domain) :
    parts (f.phrases.only (f.phrases.write value)).toList =
      [f.valueWords ++ [(f.phrases.write value).toList]] := by
  rw [toList_only, parts_lay f.isWord_phraseWords.1, (f.legible_write.isWord hv).parts_eq]
  rfl

theorem parts_range {first last : Int} (hfirst : first ∈ f.domain) (hlast : last ∈ f.domain) :
    parts (f.phrases.range first last).toList = [f.rangePart first last] := by
  have hword : IsWord (f.firstWord (f.phrases.writeEnd first).toList) :=
    f.isWord_firstWord (f.legible_writeEnd.isWord hfirst)
  have hword' : IsWord (f.lastWord (f.phrases.writeEnd last).toList) :=
    f.isWord_lastWord (f.legible_writeEnd.isWord hlast)
  have hwords : ∀ w ∈ f.rangeWords ++ [f.firstWord (f.phrases.writeEnd first).toList, "to".toList],
      IsWord w := by
    intro w hw
    simp only [List.mem_append, List.mem_cons, List.not_mem_nil, or_false] at hw
    rcases hw with hw | rfl | rfl
    · exact f.isWord_phraseWords.2.2.1 w hw
    · exact hword
    · decide
  rw [Phrases.range, toList_between, parts_lay hwords, hword'.parts_eq, rangePart,
    List.modifyHead_cons, List.append_assoc]
  rfl

theorem parts_onward {value : Int} (hv : value ∈ f.domain) :
    parts (f.phrases.onward (f.phrases.write value)).toList =
      [f.onwardWords ++ [f.firstWord (f.phrases.write value).toList]] := by
  have hword : IsWord (f.firstWord (f.phrases.write value).toList) :=
    f.isWord_firstWord (f.legible_write.isWord hv)
  rw [toList_onward, parts_lay f.isWord_phraseWords.2.2.2, hword.parts_eq]
  rfl

/-- The ends of a range lie in the domain. -/
theorem ends_mem {first last : Int} (h : (Base.range first last).WellFormed f.domain) :
    first ∈ f.domain ∧ last ∈ f.domain :=
  ⟨⟨h.1, Int.le_trans h.2.1 h.2.2.1⟩, ⟨Int.le_trans h.1 h.2.1, h.2.2.1⟩⟩

/-- The scope of an interval follows the noun. -/
theorem parts_scope {base : Base} (h : base.WellFormed f.domain) {noun : List Char}
    (hnoun : IsWord noun) :
    parts (noun ++ (f.phrases.scope base).toList) = [noun :: f.scopeWords base] := by
  cases base with
  | wildcard =>
    have hscope : (f.phrases.scope .wildcard).toList = [] := rfl
    rw [hscope, List.append_nil, hnoun.parts_eq]
    rfl
  | single value =>
    have hscope : (f.phrases.scope (.single value)).toList =
        ' ' :: (f.phrases.onward (f.phrases.write value)).toList := String.toList_append
    rw [hscope, hnoun.parts_append, parts_onward h.1]
    rfl
  | range first last =>
    have hscope : (f.phrases.scope (.range first last)).toList =
        ' ' :: (f.phrases.range first last).toList := String.toList_append
    rw [hscope, hnoun.parts_append, parts_range (ends_mem h).1 (ends_mem h).2]
    rfl

theorem isWord_interval {interval : Int} (hpos : 0 < interval) : IsWord interval.repr.toList := by
  rw [Numeral.toList_repr, Numeral.render_of_nonneg (Int.le_of_lt hpos)]
  exact isWord_of_isAlphanum Nat.toDigits_ne_nil fun _ hc => Numeral.isAlphanum_of_mem_toDigits hc

theorem parts_step {base : Base} {interval : Int} (h : base.WellFormed f.domain)
    (hpos : 0 < interval) :
    parts (f.phrases.step base interval).toList = [f.stepPart base interval] := by
  have htext : (f.phrases.step base interval).toList =
      lay ["every".toList, interval.repr.toList]
        (f.nounWord interval ++ (f.phrases.scope base).toList) := by
    unfold Phrases.step nounWord
    split <;> simp [lay]
  have hwords : ∀ w ∈ ["every".toList, interval.repr.toList], IsWord w := by
    intro w hw
    simp only [List.mem_cons, List.not_mem_nil, or_false] at hw
    rcases hw with rfl | rfl
    · decide
    · exact isWord_interval hpos
  rw [htext, parts_lay hwords, parts_scope h (f.isWord_nounWord interval)]
  rfl

/-! ### Lists -/

theorem isWord_item {t : Term} (h : t.WellFormed f.domain) :
    IsWord (f.phrases.item t).toList := by
  -- what has no name is written as in a field
  have hraw : IsWord (toString t).toList := by
    have hwritten := Term.written_render h
    rw [Term.toList_toString]
    exact ⟨hwritten.ne_nil, fun c hc => (hwritten.isTermChar hc).not_blank,
      fun hc => (hwritten.isTermChar hc).ne_comma rfl⟩
  match t with
  | .plain .wildcard => exact hraw
  | .step base interval => exact hraw
  | .plain (.single value) => exact f.legible_write.isWord h.1
  | .plain (.range first last) =>
    have hdash : IsWord "-".toList := by decide
    rw [Phrases.item, String.toList_append, String.toList_append]
    exact ((f.legible_write.isWord (ends_mem h).1).append hdash).append
      (f.legible_write.isWord (ends_mem h).2)

theorem parts_items {terms : List Term} (hne : terms ≠ [])
    (h : ∀ t ∈ terms, t.WellFormed f.domain) :
    parts (", ".intercalate (terms.map f.phrases.item)).toList =
      terms.map fun t => [(f.phrases.item t).toList] := by
  have hitem : ∀ t ∈ terms, parts (f.phrases.item t).toList = [[(f.phrases.item t).toList]] :=
    fun t ht => (isWord_item (h t ht)).parts_eq
  have hsep : ", ".toList = [',', ' '] := rfl
  rw [String.toList_intercalate, hsep, parts_intercalate (by simpa using hne), List.map_map,
    List.flatMap_map, List.map_eq_flatMap]
  exact List.flatMap_congr hitem

/-- **The parts of a clause** are those that the terms of the field tell. -/
theorem parts_clause? {terms : List Term} (hne : terms ≠ [])
    (h : ∀ t ∈ terms, t.WellFormed f.domain) :
    ((f.phrases.clause? terms).toList.flatMap fun clause => parts clause.toList) =
      f.clauseParts terms := by
  match terms, hne, h with
  | [.plain .wildcard], _, _ => cases f <;> decide
  | [.plain (.single value)], _, h =>
    have hterm := h _ List.mem_cons_self
    exact (List.append_nil _).trans (parts_only hterm.1)
  | [.plain (.range first last)], _, h =>
    have hterm := ends_mem (h _ List.mem_cons_self)
    exact (List.append_nil _).trans (parts_range hterm.1 hterm.2)
  | [.step base interval], _, h =>
    have hterm := h _ List.mem_cons_self
    exact (List.append_nil _).trans (parts_step hterm.1 hterm.2.1)
  | t :: u :: ts, hne, h =>
    rw [clauseParts_list, Phrases.clause?_list]
    refine (List.append_nil _).trans ?_
    beta_reduce
    rw [toList_among, parts_lay f.isWord_phraseWords.2.1, parts_items hne h]
    rfl

end FieldName

/-! ## Sentences -/

namespace Expression

/-- The parts of the clause for one field of the expression. -/
def clauseParts (e : Expression) (f : FieldName) : List (List (List Char)) :=
  f.clauseParts (e.get f).terms

/-- The part for a time of the clock. -/
def clockPart (hour minute : Int) : List (List Char) :=
  ["At".toList, (twoDigits hour).toList ++ ':' :: (twoDigits minute).toList]

/-- The hour and the minute, where each of them is a single value. -/
def clock? (e : Expression) : Option (Int × Int) :=
  match e.minute.terms, e.hour.terms with
  | [.plain (.single minute)], [.plain (.single hour)] => some (hour, minute)
  | _, _ => none

/-- The parts for the time of day. -/
def timeParts (e : Expression) : List (List (List Char)) :=
  match e.clock? with
  | some (hour, minute) => [clockPart hour minute]
  | none => [FieldName.minute, .hour].flatMap e.clauseParts

variable {e : Expression} {text : String}

/-- The parts of the clauses for some fields. -/
theorem parts_clauses (hread : Expression.read text = .ok e) (fs : List FieldName) :
    ((fs.filterMap e.clause?).flatMap fun clause => parts clause.toList) =
      fs.flatMap e.clauseParts := by
  induction fs with
  | nil => rfl
  | cons f fs ih =>
    obtain ⟨hne, hall⟩ := wellFormed_of_read hread f
    have hclause : ((e.clause? f).toList.flatMap fun clause => parts clause.toList) =
        e.clauseParts f := FieldName.parts_clause? hne hall
    rw [List.flatMap_cons, ← hclause, ← ih, List.filterMap_cons]
    cases e.clause? f <;> simp

theorem parts_clock {hour minute : Int} (hhour : hour ∈ FieldName.hour.domain)
    (hminute : minute ∈ FieldName.minute.domain) :
    parts ("At " ++ twoDigits hour ++ ":" ++ twoDigits minute).toList = [clockPart hour minute] := by
  have htext : ("At " ++ twoDigits hour ++ ":" ++ twoDigits minute).toList =
      lay ["At".toList] ((twoDigits hour).toList ++ ':' :: (twoDigits minute).toList) := by
    simp [lay]
  have hcolon : IsWord [':'] := by decide
  have hword : IsWord ((twoDigits hour).toList ++ ':' :: (twoDigits minute).toList) :=
    (FieldName.hour.legible_write.isWord hhour).append
      (hcolon.append (FieldName.minute.legible_write.isWord hminute))
  rw [htext, parts_lay (by decide), hword.parts_eq]
  rfl

theorem clock?_eq_some_iff {hour minute : Int} :
    e.clock? = some (hour, minute) ↔
      e.minute.terms = [.plain (.single minute)] ∧ e.hour.terms = [.plain (.single hour)] := by
  constructor
  · intro h
    unfold clock? at h
    split at h
    · next hminute hhour =>
      cases h
      exact ⟨hminute, hhour⟩
    · cases h
  · rintro ⟨hminute, hhour⟩
    simp only [clock?, hminute, hhour]

theorem timeClauses_eq (e : Expression) :
    e.timeClauses = match e.clock? with
      | some (hour, minute) => ["At " ++ twoDigits hour ++ ":" ++ twoDigits minute]
      | none => [FieldName.minute, .hour].filterMap e.clause? := by
  unfold timeClauses
  split
  · next hminute hhour => rw [clock?_eq_some_iff.2 ⟨hminute, hhour⟩]
  · next hno =>
    cases hclock : e.clock? with
    | none => rfl
    | some time =>
      obtain ⟨hminute, hhour⟩ := clock?_eq_some_iff.1 hclock
      exact absurd hhour (hno _ _ hminute)

/-- A single value lies in the domain. -/
theorem mem_domain_of_single (hread : Expression.read text = .ok e) {n : FieldName} {value : Int}
    (h : (e.get n).terms = [.plain (.single value)]) : value ∈ n.domain := by
  have hterm : (Term.plain (.single value)).WellFormed n.domain :=
    (wellFormed_of_read hread n).2 _ (h ▸ List.mem_cons_self)
  exact hterm.1

theorem parts_time (hread : Expression.read text = .ok e) :
    (e.timeClauses.flatMap fun clause => parts clause.toList) = e.timeParts := by
  rw [timeClauses_eq, timeParts]
  cases hclock : e.clock? with
  | none => exact parts_clauses hread _
  | some time =>
    obtain ⟨hminute, hhour⟩ := clock?_eq_some_iff.1 hclock
    exact (List.append_nil _).trans
      (parts_clock (mem_domain_of_single hread hhour)
        (mem_domain_of_single hread hminute))

/-- A sentence has a clause for the time of day. -/
theorem timeClauses_ne_nil (e : Expression) : e.timeClauses ≠ [] := by
  rw [timeClauses_eq]
  cases e.clock? with
  | some time => exact List.cons_ne_nil _ _
  | none =>
    obtain ⟨clause, hclause⟩ := Option.isSome_iff_exists.1
      (Phrases.isSome_clause? (p := FieldName.minute.phrases) rfl e.minute.terms)
    exact List.ne_nil_of_mem (List.mem_filterMap.2 ⟨.minute, List.mem_cons_self, hclause⟩)

/-- **The parts of a sentence** are those for the time of day and those for the fields of the date. -/
theorem parts_sentence (hread : Expression.read text = .ok e) :
    parts e.sentence.toList =
      e.timeParts ++ [FieldName.day, .month, .weekday].flatMap e.clauseParts := by
  have hne : (e.timeClauses ++ e.dateClauses).map String.toList ≠ [] := by
    simp [timeClauses_ne_nil]
  have hsep : ", ".toList = [',', ' '] := rfl
  rw [sentence, String.toList_intercalate, hsep, parts_intercalate hne, List.flatMap_map,
    List.flatMap_append, parts_time hread, dateClauses, parts_clauses hread]

end Expression

end Cron

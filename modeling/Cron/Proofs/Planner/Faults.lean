import Cron.Planner
import Cron.Proofs.Expression.Grammar
import Cron.Proofs.Term.Faults

/-! # What is wrong with a text

A text of five words is rejected for the first bad part of the first bad field. Fields are taken in
the order they are written and parts from left to right; whatever is wrong further on goes unsaid.

Main statements: `Expression.ofTexts_eq_error_iff` and `first_fault_reported`.
-/

namespace Cron

open Text

/-- The parts of a field, which commas divide. -/
def FieldTexts.parts (texts : FieldTexts) (n : FieldName) : List (List Char) :=
  (texts.get n).toList.splitOn ','

/-- All parts of a field are terms. -/
def FieldTexts.IsField (texts : FieldTexts) (n : FieldName) : Prop :=
  ∀ part ∈ texts.parts n, n.domain.IsTerm part

/-- **The first fault** of five texts: a bad part of a field, with only terms before it and only
good fields before that, and what is wrong with it. -/
structure FieldTexts.FirstFault (texts : FieldTexts) (n : FieldName) (part : List Char)
    (fault : Fault) : Prop where
  first_field : FirstWithout texts.IsField FieldName.all n
  first_part : FirstWithout n.domain.IsTerm (texts.parts n) part
  faultOf : Term.FaultOf part fault

variable {texts : FieldTexts} {n : FieldName} {err : Rejection}

/-! ## One field -/

theorem Field.read_eq_error_iff {raw : String} :
    Field.read n raw = .error err ↔ ∃ e, n.domain.readField raw = .error e ∧ err = .badField e := by
  unfold Field.read
  cases n.domain.readField raw with
  | ok terms => exact iff_of_false nofun nofun
  | error e =>
    constructor
    · intro h
      cases h
      exact ⟨e, rfl, rfl⟩
    · rintro ⟨_, h, rfl⟩
      cases h
      rfl

theorem FieldTexts.isField_iff : texts.IsField n ↔ ∃ f, Field.read n (texts.get n) = .ok f := by
  rw [IsField, parts]
  constructor
  · intro h
    obtain ⟨terms, hterms⟩ := Domain.exists_written_iff.2 h
    exact ⟨⟨texts.get n, terms⟩,
      Field.read_eq_ok_iff.2 ⟨rfl, Domain.readField_eq_ok_iff.2 hterms⟩⟩
  · rintro ⟨f, hread⟩
    exact Domain.exists_written_iff.1
      ⟨f.terms, Domain.readField_eq_ok_iff.1 (Field.read_eq_ok_iff.1 hread).2⟩

theorem FieldTexts.not_isField (h : Field.read n (texts.get n) = .error err) :
    ¬ texts.IsField n := by
  intro hfield
  obtain ⟨f, hread⟩ := isField_iff.1 hfield
  rw [h] at hread
  cases hread

/-! ## Five fields -/

namespace Expression

/-- The fields are read in their order, and reading ends at the first that cannot be read. -/
theorem firstWithout_of_ofTexts (h : ofTexts texts = .error err) :
    ∃ n, FirstWithout texts.IsField FieldName.all n ∧ Field.read n (texts.get n) = .error err := by
  have good {n : FieldName} {f : Field} (hread : Field.read n (texts.get n) = .ok f) :
      texts.IsField n := FieldTexts.isField_iff.2 ⟨f, hread⟩
  obtain hread | ⟨_, hminute, h⟩ := error_of_bind_eq_error h
  · exact ⟨.minute, .head (FieldTexts.not_isField hread), hread⟩
  obtain hread | ⟨_, hhour, h⟩ := error_of_bind_eq_error h
  · exact ⟨.hour, .tail (good hminute) (.head (FieldTexts.not_isField hread)), hread⟩
  obtain hread | ⟨_, hday, h⟩ := error_of_bind_eq_error h
  · exact ⟨.day, .tail (good hminute) (.tail (good hhour)
      (.head (FieldTexts.not_isField hread))), hread⟩
  obtain hread | ⟨_, hmonth, h⟩ := error_of_bind_eq_error h
  · exact ⟨.month, .tail (good hminute) (.tail (good hhour) (.tail (good hday)
      (.head (FieldTexts.not_isField hread)))), hread⟩
  obtain hread | ⟨_, -, h⟩ := error_of_bind_eq_error h
  · exact ⟨.weekday, .tail (good hminute) (.tail (good hhour) (.tail (good hday)
      (.tail (good hmonth) (.head (FieldTexts.not_isField hread))))), hread⟩
  cases h

/-- **What five texts are rejected for** is their first fault. -/
theorem ofTexts_eq_error_iff : ofTexts texts = .error err ↔
    ∃ n part fault, texts.FirstFault n part fault ∧ err = .badField ⟨n.name, fault⟩ := by
  have found (err : Rejection) (h : ofTexts texts = .error err) :
      ∃ n part fault, texts.FirstFault n part fault ∧ err = .badField ⟨n.name, fault⟩ := by
    obtain ⟨n, hn, hread⟩ := firstWithout_of_ofTexts h
    obtain ⟨e, he, rfl⟩ := Field.read_eq_error_iff.1 hread
    obtain ⟨part, fault, hpart, hfault, rfl⟩ := Domain.readField_eq_error_iff.1 he
    exact ⟨n, part, fault, ⟨hn, hpart, hfault⟩, by rw [FieldName.name_domain]⟩
  refine ⟨found err, ?_⟩
  rintro ⟨n, part, fault, hfirst, rfl⟩
  cases hread : ofTexts texts with
  | ok e =>
    have hfield : texts.IsField n := FieldTexts.isField_iff.2 ⟨_, ofTexts_eq_ok_iff.1 hread n⟩
    exact absurd hfield hfirst.first_field.not_good
  | error err =>
    -- there is only one first fault, so the one that was found is the one at hand
    obtain ⟨n', part', fault', hfirst', rfl⟩ := found err hread
    obtain rfl := hfirst.first_field.unique hfirst'.first_field
    obtain rfl := hfirst.first_part.unique hfirst'.first_part
    rw [hfirst.faultOf.unique hfirst'.faultOf]

theorem exists_ofTexts_eq_error_iff :
    (∃ err, ofTexts texts = .error err) ↔ ∃ n, ¬ texts.IsField n := by
  constructor
  · rintro ⟨err, h⟩
    obtain ⟨n, hn, -⟩ := firstWithout_of_ofTexts h
    exact ⟨n, hn.not_good⟩
  · rintro ⟨n, hn⟩
    cases hread : ofTexts texts with
    | ok e => exact absurd (FieldTexts.isField_iff.2 ⟨_, ofTexts_eq_ok_iff.1 hread n⟩) hn
    | error err => exact ⟨err, rfl⟩

end Expression

/-! ## What is answered -/

theorem fst_withRejection {α : Type} (text : String) (result : Except Rejection α) :
    (withRejection text result).1 = result := by
  cases result <;> rfl

/-- The words of a text. -/
theorem fst_parse (text : String) : (parse text).1 = FieldTexts.read (Alias.expand text) :=
  fst_withRejection text _

theorem fst_validate_eq_ok_iff {text : String} :
    (validate text).1 = .ok () ↔ ∃ e, Expression.read text = .ok e := by
  rw [validate, fst_withRejection]
  cases Expression.read text with
  | error err => simp [Except.map]
  | ok e => simp [Except.map]

theorem fst_validate_eq_error_iff {text : String} {err : Rejection} :
    (validate text).1 = .error err ↔ Expression.read text = .error err := by
  rw [validate, fst_withRejection]
  cases Expression.read text with
  | error err' => simp [Except.map]
  | ok e => simp [Except.map]

/-- **The first fault is reported.** Five texts are rejected just if some part of some field is no
term, and then for their first fault: the fault of the first bad part of the first bad field, with
the name of that field. A text that has five words is valid or not as its words are, and what is
wrong with it is what is wrong with them. -/
theorem first_fault_reported :
    (∀ texts : FieldTexts, (∃ err, Expression.ofTexts texts = .error err) ↔
      ∃ n, ∃ part ∈ texts.parts n, ¬ n.domain.IsTerm part) ∧
    (∀ (texts : FieldTexts) (err : Rejection), Expression.ofTexts texts = .error err ↔
      ∃ n part fault, texts.FirstFault n part fault ∧ err = .badField ⟨n.name, fault⟩) ∧
    (∀ (text : String) (texts : FieldTexts), (parse text).1 = .ok texts → ∀ err,
      ((validate text).1 = .error err ↔
        ∃ n part fault, texts.FirstFault n part fault ∧ err = .badField ⟨n.name, fault⟩)) ∧
    ∀ (n : FieldName) (fault : Fault), (Rejection.badField ⟨n.name, fault⟩).field? = some n.name ∧
      (Rejection.badField ⟨n.name, fault⟩).message =
        match fault with
        | .badInterval => "Invalid step value in " ++ n.name
        | .badRange => "Invalid range in " ++ n.name
        | .badValue quoted => "Invalid value in " ++ n.name ++ ": " ++ quoted := by
  refine ⟨?rejected, fun texts err => Expression.ofTexts_eq_error_iff, ?validate, ?wording⟩
  case rejected =>
    intro texts
    rw [Expression.exists_ofTexts_eq_error_iff]
    simp only [FieldTexts.IsField, not_forall, exists_prop]
  case validate =>
    intro text texts hparse err
    rw [fst_parse] at hparse
    rw [fst_validate_eq_error_iff, Expression.read, hparse]
    exact Expression.ofTexts_eq_error_iff
  case wording =>
    intro n fault
    cases fault <;> exact ⟨rfl, rfl⟩

/-- Four things are wrong here: the range and the interval of the second part, the third part and
the hour. The interval is what is reported. -/
theorem first_fault_reported_bad_interval :
    (parse "1-5,9-3/0,x 24 * * *").1 = .ok ⟨"1-5,9-3/0,x", "24", "*", "*", "*"⟩ ∧
    FieldTexts.FirstFault ⟨"1-5,9-3/0,x", "24", "*", "*", "*"⟩ .minute "9-3/0".toList .badInterval ∧
    (validate "1-5,9-3/0,x 24 * * *").1 = .error (.badField ⟨"minute", .badInterval⟩) := by
  have hparse : (parse "1-5,9-3/0,x 24 * * *").1 =
      .ok ⟨"1-5,9-3/0,x", "24", "*", "*", "*"⟩ := rfl
  have hparts : FieldTexts.parts ⟨"1-5,9-3/0,x", "24", "*", "*", "*"⟩ .minute =
      ["1-5".toList, "9-3/0".toList, "x".toList] := rfl
  have hgood : FieldName.minute.domain.IsTerm "1-5".toList :=
    ⟨_, Domain.readTerm_eq_ok_iff.1 rfl⟩
  obtain ⟨hbad, hfault⟩ : ¬ FieldName.minute.domain.IsTerm "9-3/0".toList ∧
      Term.FaultOf "9-3/0".toList .badInterval := Domain.readTerm_eq_error_iff.1 rfl
  have hfirst : FieldTexts.FirstFault ⟨"1-5,9-3/0,x", "24", "*", "*", "*"⟩ .minute
      "9-3/0".toList .badInterval := by
    refine ⟨.head fun hfield => hbad (hfield _ ?_), ?_, hfault⟩
    · rw [hparts]
      exact List.mem_cons_of_mem _ List.mem_cons_self
    · rw [hparts]
      exact .tail hgood (.head hbad)
  exact ⟨hparse, hfirst, (first_fault_reported.2.2.1 _ _ hparse _).2 ⟨_, _, _, hfirst, rfl⟩⟩

end Cron

import Cron.Proofs.Description.Careful
import Cron.Proofs.Description.Unique
import Cron.Proofs.Planner.Faults
import Cron.Proofs.Search.Careful

/-! # The answers of a planner agree

Four questions can be asked about a text, and each goes through the stages of reading on its own:
for its five words, for what is wrong with it, for its sentence, and for the next instant at which it
fires. All of them can be answered for all texts, and they agree on which texts are expressions, on
the words of an expression, and on what is wrong with any other text.

Main statements: `Rejection.field?_of_ofTexts`, `describe_ne_invalidSentence_iff`,
`Planner.tryNext_eq_ok` and `answers_agree`.
-/

namespace Cron

open Calendar Text

/-! ## What a failure comes from -/

/-- **The field to blame**: five texts are rejected for one of their fields. -/
theorem Rejection.field?_of_ofTexts {texts : FieldTexts} {err : Rejection}
    (h : Expression.ofTexts texts = .error err) : ∃ n : FieldName, err.field? = some n.name := by
  obtain ⟨n, -, fault, -, rfl⟩ := Expression.ofTexts_eq_error_iff.1 h
  exact ⟨n, rfl⟩

/-- Words are counted before any field is looked at. -/
theorem Rejection.eq_wrongCount_of_read {text : String} {err : Rejection}
    (h : FieldTexts.read text = .error err) : err = .wrongCount := by
  unfold FieldTexts.read at h
  split at h
  · cases h
  · cases h
    rfl

/-- The words of an expression are what its fields were read from. -/
theorem Expression.read_texts {text : String} {e : Expression} (h : Expression.read text = .ok e) :
    FieldTexts.read (Alias.expand text) = .ok (e.map fun _ f => f.raw) := by
  obtain ⟨texts, htexts, h⟩ := exists_of_bind_eq_ok h
  have hraw : texts = e.map fun _ f => f.raw := by
    refine Fields.ext_get fun n => ?_
    rw [Fields.get_map]
    exact (Field.read_eq_ok_iff.1 (ofTexts_eq_ok_iff.1 h n)).1.symm
  rw [htexts, hraw]

/-! ## The sentence for no expression -/

/-- No expression has the sentence for texts that are none: a sentence begins with a time of the
clock or with a clause about the minute. -/
theorem Expression.sentence_ne_invalidSentence {text : String} {e : Expression}
    (hread : Expression.read text = .ok e) : e.sentence ≠ invalidSentence := by
  intro heq
  have hparts : parts e.sentence.toList = [["Invalid".toList, "cron".toList, "expression".toList]] := by
    rw [heq]
    decide
  have htopic := topic_head hread
  rw [hparts] at htopic
  cases hclock : e.clock? with
  | none =>
    rw [hclock] at htopic
    exact absurd htopic (by decide)
  | some time =>
    rw [parts_sentence hread, timeParts, hclock] at hparts
    have hpart := (List.cons.inj hparts).1
    have hword := (List.cons.inj hpart).1
    exact absurd hword (by decide)

/-- **The sentence tells expressions from other texts.** -/
theorem describe_ne_invalidSentence_iff {text : String} :
    describe text ≠ invalidSentence ↔ ∃ e, Expression.read text = .ok e := by
  have hnames : ∀ a ∈ Alias.all, a.description ≠ invalidSentence := by decide
  delta describe
  cases hread : Expression.read text with
  | error err => exact iff_of_false (fun hne => hne rfl) nofun
  | ok e =>
    refine iff_of_true ?_ ⟨e, rfl⟩
    cases hfind : Alias.find? text with
    | some a => exact hnames a (Alias.mem_all_of_find? hfind).1
    | none => exact Expression.sentence_ne_invalidSentence hread

/-! ## Searching with care -/

/-- The next instant at which an expression fires, with the record of a search in vain. -/
def Search.tryNext (e : Expression) (settings : Settings) (reference : Instant) :
    Except SearchError (Logged (Option Instant)) :=
  (tryOutcome e settings reference).map fun o =>
    (o.instant?, (o.message e settings).toList.map fun text => ⟨"OccurrenceSearch", text⟩)

/-- The next instant after the reference at which a text fires. A bad text loads nothing. -/
def Planner.tryNext (p : Planner) (env : Environment) (text : String) (reference : Instant) :
    Except Search.SearchError (Except LoadError (Logged (Option Instant) × Planner)) :=
  match Expression.read text with
  | .error e => .ok (.ok ((none, [rejectionRecord text e]), p))
  | .ok e =>
    match p.loadSearch env with
    | .error err => .ok (.error err)
    | .ok (place, p) =>
      (Search.tryNext e (p.object place).values reference).map fun answer => .ok (answer, p)

/-- **No search is broken off**, whatever the planner and the text. -/
theorem Planner.tryNext_eq_ok (p : Planner) (env : Environment) (text : String)
    (reference : Instant) : p.tryNext env text reference = .ok (p.next env text reference) := by
  delta tryNext next
  cases hread : Expression.read text with
  | error err => rfl
  | ok e =>
    have hsearch (settings : Settings) :
        Search.tryNext e settings reference = .ok (Search.next e settings reference) := by
      rw [Search.tryNext, Search.tryOutcome_eq_ok hread]
      rfl
    cases p.loadSearch env with
    | error err => rfl
    | ok found =>
      obtain ⟨place, p⟩ := found
      exact congrArg (Except.map _) (hsearch (p.object place).values)

/-! ## Agreement -/

/-- **The answers agree.** On a planner whose settings load, or have been loaded for its search, every
question about a text has its answer, with nothing that fails on the way. The text is valid just if it
is read as an expression, and just if its sentence is not the one for texts that are none. What is
read has the words of the text, and is searched for its next instant. Where the words cannot be
counted, that is what is wrong with the text, and no field is to blame; where they can, one of the
fields is; and what is not valid has no next instant and loads nothing. -/
theorem answers_agree (text : String) (r : Instant) {p p' : Planner} {env : Environment}
    {place : Nat} (hload : p.loadSearch env = .ok (place, p')) :
    (tryDescribe text = .ok (describe text) ∧
      ∃ answer, p.next env text r = .ok answer ∧ p.tryNext env text r = .ok (.ok answer)) ∧
    ((validate text).1 = .ok () ↔ ∃ e, Expression.read text = .ok e) ∧
    (describe text ≠ invalidSentence ↔ ∃ e, Expression.read text = .ok e) ∧
    (∀ e, Expression.read text = .ok e → (parse text).1 = .ok (e.map fun _ f => f.raw) ∧
      p.next env text r = .ok (Search.next e (p'.object place).values r, p')) ∧
    (∀ err, (parse text).1 = .error err → (validate text).1 = .error err ∧ err.field? = none) ∧
    (∀ texts err, (parse text).1 = .ok texts → (validate text).1 = .error err →
      ∃ n : FieldName, err.field? = some n.name) ∧
    ∀ err, (validate text).1 = .error err →
      p.next env text r = .ok ((none, [rejectionRecord text err]), p) := by
  have hnext (e : Expression) (hread : Expression.read text = .ok e) :
      p.next env text r = .ok (Search.next e (p'.object place).values r, p') := by
    rw [Planner.next_of_ok hread, hload]
    rfl
  have hnone (err : Rejection) (hread : Expression.read text = .error err) :
      p.next env text r = .ok ((none, [rejectionRecord text err]), p) :=
    Planner.next_of_error hread p r
  refine ⟨⟨tryDescribe_eq_ok text, ?answer⟩, fst_validate_eq_ok_iff, describe_ne_invalidSentence_iff,
    ?words, ?count, ?field, ?invalid⟩
  case answer =>
    rw [Planner.tryNext_eq_ok]
    cases hread : Expression.read text with
    | error err => exact ⟨_, hnone err hread, congrArg Except.ok (hnone err hread)⟩
    | ok e => exact ⟨_, hnext e hread, congrArg Except.ok (hnext e hread)⟩
  case words =>
    intro e hread
    rw [fst_parse]
    exact ⟨Expression.read_texts hread, hnext e hread⟩
  case count =>
    intro err hparse
    rw [fst_parse] at hparse
    have hread : Expression.read text = .error err := by
      rw [Expression.read, hparse]
      rfl
    refine ⟨fst_validate_eq_error_iff.2 hread, ?_⟩
    rw [Rejection.eq_wrongCount_of_read hparse]
    rfl
  case field =>
    intro texts err hparse hvalid
    rw [fst_parse] at hparse
    have hread := fst_validate_eq_error_iff.1 hvalid
    rw [Expression.read, hparse] at hread
    exact Rejection.field?_of_ofTexts hread
  case invalid =>
    intro err hvalid
    exact hnone err (fst_validate_eq_error_iff.1 hvalid)

/-- Five words, the third of which is no field: asked in the last minute there is, of a planner that
may not visit a year. -/
theorem answers_agree_bad_day : ∃ (r : Instant) (p : Planner) (err : Rejection),
    Instant.ofString? "9999-12-31T23:59:59+05:30" = some r ∧
    (Planner.ofOverrides [("horizon_years", -1)]).loadSearch .empty = .ok (0, p) ∧
    (parse "*/5 0 31,0x1f 0 7").1 = .ok ⟨"*/5", "0", "31,0x1f", "0", "7"⟩ ∧
    (validate "*/5 0 31,0x1f 0 7").1 = .error err ∧ (∃ n : FieldName, err.field? = some n.name) ∧
    tryDescribe "*/5 0 31,0x1f 0 7" = .ok (describe "*/5 0 31,0x1f 0 7") ∧
    ¬ describe "*/5 0 31,0x1f 0 7" ≠ invalidSentence ∧
    (Planner.ofOverrides [("horizon_years", -1)]).next .empty "*/5 0 31,0x1f 0 7" r =
      .ok ((none, [rejectionRecord "*/5 0 31,0x1f 0 7" err]),
        Planner.ofOverrides [("horizon_years", -1)]) := by
  obtain ⟨r, hr⟩ : ∃ r, Instant.ofString? "9999-12-31T23:59:59+05:30" = some r := ⟨_, rfl⟩
  obtain ⟨p, hload⟩ : ∃ p, (Planner.ofOverrides [("horizon_years", -1)]).loadSearch .empty =
    .ok (0, p) := ⟨_, rfl⟩
  obtain ⟨err, hvalid⟩ : ∃ err, (validate "*/5 0 31,0x1f 0 7").1 = .error err := ⟨_, rfl⟩
  have hparse : (parse "*/5 0 31,0x1f 0 7").1 = .ok ⟨"*/5", "0", "31,0x1f", "0", "7"⟩ := rfl
  have hread : ¬ ∃ e, Expression.read "*/5 0 31,0x1f 0 7" = .ok e := by
    rintro ⟨e, he⟩
    rw [fst_validate_eq_error_iff.1 hvalid] at he
    cases he
  obtain ⟨⟨hdescribe, -⟩, -, hsentence, -, -, hfield, hinvalid⟩ :=
    answers_agree "*/5 0 31,0x1f 0 7" r hload
  exact ⟨r, p, err, hr, hload, hparse, hvalid, hfield _ err hparse hvalid, hdescribe,
    fun hne => hread (hsentence.1 hne), hinvalid err hvalid⟩

end Cron

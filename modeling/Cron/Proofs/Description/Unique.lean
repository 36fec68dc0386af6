import Cron.Proofs.Description.Reading

/-! # A sentence tells the terms

The clause for a field tells the terms of the field, in their order. First words and the number of
parts tell what kind of clause it is, and clauses of one kind hold the same words just if the values
are written alike. Since the clauses are found in a sentence again, the sentence tells the terms of
all fields; only of a Sunday it does not tell which of its two numbers was meant.

Main statements: `FieldName.renumber_eq_of_clauseParts_eq` and
`Expression.renumber_eq_of_sentence_eq`.
-/

namespace Cron

open Text

/-! ## Terms under other numbers -/

/-- The values that a base is made of. -/
def Base.values : Base → List Int
  | .wildcard => []
  | .single value => [value]
  | .range first last => [first, last]

/-- The base with each value under another number. -/
def Base.renumber (number : Int → Int) : Base → Base
  | .wildcard => .wildcard
  | .single value => .single (number value)
  | .range first last => .range (number first) (number last)

/-- The values that a term is made of, its interval apart. -/
def Term.values : Term → List Int
  | .plain base => base.values
  | .step base _ => base.values

/-- The term with each value under another number. -/
def Term.renumber (number : Int → Int) : Term → Term
  | .plain base => .plain (base.renumber number)
  | .step base interval => .step (base.renumber number) interval

theorem Base.renumber_eq_self {number : Int → Int} {b : Base} (h : ∀ v ∈ b.values, number v = v) :
    b.renumber number = b := by
  cases b with
  | wildcard => rfl
  | single value => rw [renumber, h value (by simp [values])]
  | range first last => rw [renumber, h first (by simp [values]), h last (by simp [values])]

theorem Term.renumber_eq_self {number : Int → Int} {t : Term} (h : ∀ v ∈ t.values, number v = v) :
    t.renumber number = t := by
  cases t with
  | plain base => rw [renumber, Base.renumber_eq_self h]
  | step base interval => rw [renumber, Base.renumber_eq_self h]

theorem Base.mem_domain_of_mem_values {d : Domain} {b : Base} (h : b.WellFormed d) {v : Int}
    (hv : v ∈ b.values) : v ∈ d := by
  cases b with
  | wildcard => cases hv
  | single value =>
    rw [List.mem_singleton.1 hv]
    exact h.1
  | range first last =>
    obtain ⟨hmin, hle, hmax, -⟩ := h
    simp only [values, List.mem_cons, List.not_mem_nil, or_false] at hv
    rcases hv with rfl | rfl
    · exact ⟨hmin, Int.le_trans hle hmax⟩
    · exact ⟨Int.le_trans hmin hle, hmax⟩

/-- The values of a well-formed term lie in the domain. -/
theorem Term.mem_domain_of_mem_values {d : Domain} {t : Term} (h : t.WellFormed d) {v : Int}
    (hv : v ∈ t.values) : v ∈ d := by
  cases t with
  | plain base => exact Base.mem_domain_of_mem_values h hv
  | step base interval => exact Base.mem_domain_of_mem_values h.1 hv

/-! ## Kinds of clauses -/

/-- The kinds of clauses, with the terms that they are for. -/
inductive Clause where
  /-- A bare `*`. -/
  | everything
  /-- One value. -/
  | value (v : Int)
  /-- A range. -/
  | range (first last : Int)
  /-- An interval. -/
  | step (base : Base) (interval : Int)
  /-- Several terms. -/
  | list (first second : Term) (rest : List Term)

namespace Clause

/-- The terms that a clause is for. -/
def terms : Clause → List Term
  | everything => [.plain .wildcard]
  | value v => [.plain (.single v)]
  | range first last => [.plain (.range first last)]
  | step base interval => [.step base interval]
  | list first second rest => first :: second :: rest

/-- All lists of terms have a clause. -/
theorem exists_terms_eq {ts : List Term} (hne : ts ≠ []) : ∃ c : Clause, c.terms = ts := by
  match ts, hne with
  | [.plain .wildcard], _ => exact ⟨.everything, rfl⟩
  | [.plain (.single v)], _ => exact ⟨.value v, rfl⟩
  | [.plain (.range first last)], _ => exact ⟨.range first last, rfl⟩
  | [.step base interval], _ => exact ⟨.step base interval, rfl⟩
  | t :: u :: rest, _ => exact ⟨.list t u rest, rfl⟩

/-- The number of a kind. -/
def kind : Clause → Nat
  | everything => 0
  | value _ => 1
  | range _ _ => 2
  | step _ _ => 3
  | list _ _ _ => 4

end Clause

/-- The number of the kind of a clause, told by its parts. -/
def kindOfParts : List (List (List Char)) → Nat
  | [] => 0
  | [part] =>
    if part.head? = some "from".toList then 2
    else if part.head? = some "every".toList then
      match part.drop 2 with
      | [] => 0
      | _ :: _ => 3
    else 1
  | _ => 4

namespace FieldName

variable {f : FieldName}

theorem kindOfParts_clauseParts (c : Clause) : kindOfParts (f.clauseParts c.terms) = c.kind := by
  cases c with
  | everything => cases f <;> rfl
  | value v => cases f <;> rfl
  | range first last => cases f <;> rfl
  | step base interval => rfl
  | list t u rest =>
    rw [Clause.terms, clauseParts_list]
    rfl

/-! ## What clauses of one kind tell -/

theorem firstWord_injective {w w' : List Char} (h : f.firstWord w = f.firstWord w') : w = w' := by
  cases f with
  | hour => exact List.append_cancel_right h
  | _ => exact h

theorem lastWord_injective {w w' : List Char} (h : f.lastWord w = f.lastWord w') : w = w' := by
  cases f with
  | hour => exact List.append_cancel_right h
  | _ => exact h

theorem listedAs_eq_of_write {v w : Int} (hv : v ∈ f.domain) (hw : w ∈ f.domain)
    (h : (f.phrases.write v).toList = (f.phrases.write w).toList) : f.listedAs v = f.listedAs w :=
  f.legible_write.listedAs_eq v hv w hw (String.toList_inj.1 h)

theorem listedAs_eq_of_writeEnd {v w : Int} (hv : v ∈ f.domain) (hw : w ∈ f.domain)
    (h : (f.phrases.writeEnd v).toList = (f.phrases.writeEnd w).toList) :
    f.listedAs v = f.listedAs w :=
  f.legible_writeEnd.listedAs_eq v hv w hw (String.toList_inj.1 h)

theorem renumber_eq_of_rangePart_eq {first last first' last' : Int}
    (h : (Base.range first last).WellFormed f.domain)
    (h' : (Base.range first' last').WellFormed f.domain)
    (heq : f.rangePart first last = f.rangePart first' last') :
    (Base.range first last).renumber f.listedAs = (Base.range first' last').renumber f.listedAs := by
  have hwords := List.append_cancel_left heq
  simp only [List.cons.injEq, and_true] at hwords
  have hfirst := listedAs_eq_of_writeEnd (ends_mem h).1 (ends_mem h').1 (firstWord_injective hwords.1)
  have hlast := listedAs_eq_of_writeEnd (ends_mem h).2 (ends_mem h').2
    (lastWord_injective hwords.2.2)
  rw [Base.renumber, Base.renumber, hfirst, hlast]

theorem renumber_eq_of_write_eq {v w : Int} (h : (Base.single v).WellFormed f.domain)
    (h' : (Base.single w).WellFormed f.domain)
    (heq : (f.phrases.write v).toList = (f.phrases.write w).toList) :
    (Base.single v).renumber f.listedAs = (Base.single w).renumber f.listedAs := by
  rw [Base.renumber, Base.renumber, listedAs_eq_of_write h.1 h'.1 heq]

/-- The first word of the scope over a base. -/
def scopeWord? : Base → Option String
  | .wildcard => none
  | .single _ => some "starting"
  | .range _ _ => some "from"

theorem head?_scopeWords (b : Base) :
    (f.scopeWords b).head? = (scopeWord? b).map String.toList := by
  cases b <;> cases f <;> rfl

theorem renumber_eq_of_scopeWords_eq {b b' : Base} (h : b.WellFormed f.domain)
    (h' : b'.WellFormed f.domain) (heq : f.scopeWords b = f.scopeWords b') :
    b.renumber f.listedAs = b'.renumber f.listedAs := by
  have hhead : (scopeWord? b).map String.toList = (scopeWord? b').map String.toList := by
    rw [← head?_scopeWords, ← head?_scopeWords, heq]
  cases b with
  | wildcard =>
    cases b' with
    | wildcard => rfl
    | _ => simp [scopeWord?] at hhead
  | single v =>
    cases b' with
    | single w =>
      have hword := List.append_cancel_left (heq : f.onwardWords ++ _ = f.onwardWords ++ _)
      exact renumber_eq_of_write_eq h h' (firstWord_injective (List.singleton_inj.1 hword))
    | _ => simp [scopeWord?] at hhead
  | range first last =>
    cases b' with
    | range first' last' => exact renumber_eq_of_rangePart_eq h h' heq
    | _ => simp [scopeWord?] at hhead

/-! ### Terms of a list -/

/-- The mark by which a term of a list is known. -/
def mark? : Term → Option Char
  | .step _ _ => some '/'
  | .plain .wildcard => some '*'
  | .plain (.range _ _) => some '-'
  | .plain (.single _) => none

/-- The first of the marks that stands in a text. -/
def markIn? (cs : List Char) : Option Char :=
  ['/', '*', '-'].find? fun mark => mark ∈ cs

theorem toList_item_range (first last : Int) :
    (f.phrases.item (.plain (.range first last))).toList =
      (f.phrases.write first).toList ++ '-' :: (f.phrases.write last).toList := by
  rw [Phrases.item, String.toList_append, String.toList_append, List.append_assoc]
  rfl

theorem markIn?_item {t : Term} (h : t.WellFormed f.domain) :
    markIn? (f.phrases.item t).toList = mark? t := by
  have hslash : '/'.isAlphanum = false := by decide
  have hstar : '*'.isAlphanum = false := by decide
  have hdash : '-'.isAlphanum = false := by decide
  cases t with
  | step base interval =>
    have hmem : '/' ∈ (f.phrases.item (.step base interval)).toList := by
      show '/' ∈ (toString (Term.step base interval)).toList
      rw [Term.toList_toString, Term.render]
      exact List.mem_append_right _ List.mem_cons_self
    rw [markIn?, List.find?_cons_of_pos (by simpa using hmem)]
    rfl
  | plain base =>
    cases base with
    | wildcard => cases f <;> decide
    | range first last =>
      have hfirst {c : Char} := f.legible_write.not_mem (c := c) (ends_mem h).1
      have hlast {c : Char} := f.legible_write.not_mem (c := c) (ends_mem h).2
      simp [markIn?, mark?, toList_item_range, hfirst hslash, hfirst hstar, hlast hslash,
        hlast hstar]
    | single v =>
      have hv {c : Char} := f.legible_write.not_mem (c := c) h.1
      simp [markIn?, mark?, Phrases.item, hv hslash, hv hstar, hv hdash]

theorem renumber_eq_of_range_eq {first last first' last' : Int}
    (h : (Base.range first last).WellFormed f.domain)
    (h' : (Base.range first' last').WellFormed f.domain)
    (heq : (f.phrases.item (.plain (.range first last))).toList =
      (f.phrases.item (.plain (.range first' last'))).toList) :
    (Base.range first last).renumber f.listedAs = (Base.range first' last').renumber f.listedAs := by
  have hdash {v : Int} (hv : v ∈ f.domain) : '-' ∉ (f.phrases.write v).toList :=
    f.legible_write.not_mem hv (by decide)
  rw [toList_item_range, toList_item_range] at heq
  -- no dash stands in the names of the ends, so the one between them parts them
  have hends := (List.append_cons_inj_of_notMem (hdash (ends_mem h).1) (hdash (ends_mem h).2)).1 heq
  rw [Base.renumber, Base.renumber, listedAs_eq_of_write (ends_mem h).1 (ends_mem h').1 hends.1,
    listedAs_eq_of_write (ends_mem h).2 (ends_mem h').2 hends.2.2]

/-- Terms that are printed alike are equal. -/
theorem eq_of_render_eq {d : Domain} {t t' : Term} (h : t.WellFormed d) (h' : t'.WellFormed d)
    (heq : t.render = t'.render) : t = t' :=
  Domain.eq_of_written (Term.written_render h) (heq ▸ Term.written_render h')

/-- **An item of a list tells the term**, up to the number of Sunday. -/
theorem renumber_eq_of_item_eq {t t' : Term} (h : t.WellFormed f.domain)
    (h' : t'.WellFormed f.domain) (heq : (f.phrases.item t).toList = (f.phrases.item t').toList) :
    t.renumber f.listedAs = t'.renumber f.listedAs := by
  have hmark : mark? t = mark? t' := by rw [← markIn?_item h, ← markIn?_item h', heq]
  cases t with
  | step base interval =>
    cases t' with
    | step base' interval' =>
      have hrender : (Term.step base interval).render = (Term.step base' interval').render := by
        rw [← Term.toList_toString, ← Term.toList_toString]
        exact heq
      rw [eq_of_render_eq h h' hrender]
    | plain b' => cases b' <;> simp [mark?] at hmark
  | plain b =>
    cases t' with
    | step base' interval' => cases b <;> simp [mark?] at hmark
    | plain b' =>
      cases b with
      | wildcard =>
        cases b' with
        | wildcard => rfl
        | _ => simp [mark?] at hmark
      | single v =>
        cases b' with
        | single w => exact congrArg Term.plain (renumber_eq_of_write_eq h h' heq)
        | _ => simp [mark?] at hmark
      | range first last =>
        cases b' with
        | range first' last' => exact congrArg Term.plain (renumber_eq_of_range_eq h h' heq)
        | _ => simp [mark?] at hmark

theorem map_renumber_eq_of_map_item_eq {ts ts' : List Term} (h : ∀ t ∈ ts, t.WellFormed f.domain)
    (h' : ∀ t ∈ ts', t.WellFormed f.domain)
    (heq : (ts.map fun t => [(f.phrases.item t).toList]) =
      ts'.map fun t => [(f.phrases.item t).toList]) :
    ts.map (Term.renumber f.listedAs) = ts'.map (Term.renumber f.listedAs) := by
  induction ts generalizing ts' with
  | nil => rw [List.map_eq_nil_iff.1 heq.symm]
  | cons t ts ih =>
    cases ts' with
    | nil => cases heq
    | cons t' ts' =>
      rw [List.map_cons, List.map_cons, List.cons.injEq] at heq
      rw [List.forall_mem_cons] at h h'
      rw [List.map_cons, List.map_cons, ih h.2 h'.2 heq.2,
        renumber_eq_of_item_eq h.1 h'.1 (List.singleton_inj.1 heq.1)]

/-! ### Clauses -/

/-- **The parts of a clause tell the terms**, up to the number of Sunday. -/
theorem renumber_eq_of_clauseParts_eq {ts ts' : List Term} (hne : ts ≠ []) (hne' : ts' ≠ [])
    (h : ∀ t ∈ ts, t.WellFormed f.domain) (h' : ∀ t ∈ ts', t.WellFormed f.domain)
    (heq : f.clauseParts ts = f.clauseParts ts') :
    ts.map (Term.renumber f.listedAs) = ts'.map (Term.renumber f.listedAs) := by
  obtain ⟨c, rfl⟩ := Clause.exists_terms_eq hne
  obtain ⟨c', rfl⟩ := Clause.exists_terms_eq hne'
  have hkind : c.kind = c'.kind := by
    rw [← kindOfParts_clauseParts, ← kindOfParts_clauseParts, heq]
  cases c with
  | everything =>
    cases c' with
    | everything => rfl
    | _ => cases hkind
  | value v =>
    cases c' with
    | value w =>
      have hword := List.append_cancel_left (List.singleton_inj.1 heq)
      have hbase := renumber_eq_of_write_eq (h _ List.mem_cons_self) (h' _ List.mem_cons_self)
        (List.singleton_inj.1 hword)
      exact congrArg (fun b => [Term.plain b]) hbase
    | _ => cases hkind
  | range first last =>
    cases c' with
    | range first' last' =>
      have hbase := renumber_eq_of_rangePart_eq (h _ List.mem_cons_self) (h' _ List.mem_cons_self)
        (List.singleton_inj.1 heq)
      exact congrArg (fun b => [Term.plain b]) hbase
    | _ => cases hkind
  | step base interval =>
    cases c' with
    | step base' interval' =>
      obtain ⟨hbase, -, -⟩ := h _ List.mem_cons_self
      obtain ⟨hbase', -, -⟩ := h' _ List.mem_cons_self
      have hpart : f.stepPart base interval = f.stepPart base' interval' := List.singleton_inj.1 heq
      simp only [stepPart, List.cons.injEq, true_and] at hpart
      have hscope := renumber_eq_of_scopeWords_eq hbase hbase' hpart.2.2
      rw [Clause.terms, Clause.terms, List.map_singleton, List.map_singleton, Term.renumber,
        Term.renumber, hscope, Numeral.repr_injective (String.toList_inj.1 hpart.1)]
    | _ => cases hkind
  | list t u rest =>
    cases c' with
    | list t' u' rest' =>
      rw [Clause.terms, Clause.terms, clauseParts_list, clauseParts_list, List.cons.injEq] at heq
      have hfirst : [(f.phrases.item t).toList] = [(f.phrases.item t').toList] :=
        List.append_cancel_left heq.1
      refine map_renumber_eq_of_map_item_eq h h' ?_
      exact congrArg₂ List.cons hfirst heq.2
    | _ => cases hkind

/-- The minute has a clause whatever its terms are. -/
theorem clauseParts_minute_ne_nil {ts : List Term} (hne : ts ≠ []) : minute.clauseParts ts ≠ [] := by
  obtain ⟨c, rfl⟩ := Clause.exists_terms_eq hne
  cases c with
  | list t u rest =>
    rw [Clause.terms, clauseParts_list]
    exact List.cons_ne_nil _ _
  | _ => exact List.cons_ne_nil _ _

end FieldName

/-! ## Sentences -/

namespace Expression

variable {text text' : String} {e e' : Expression}

/-- The clauses of an expression that was read are clauses. -/
theorem isClause_of_read (hread : Expression.read text = .ok e) (f : FieldName) :
    IsClause f (e.clauseParts f) :=
  isClause_clauseParts (wellFormed_of_read hread f).2

/-- The terms are told by the parts of the clause that they have in a sentence. -/
theorem renumber_eq_of_flatMap_eq (hread : Expression.read text = .ok e)
    (hread' : Expression.read text' = .ok e') {fs : List FieldName} (hfs : fs.Nodup)
    (h : fs.flatMap e.clauseParts = fs.flatMap e'.clauseParts) {f : FieldName} (hf : f ∈ fs) :
    (e.get f).terms.map (Term.renumber f.listedAs) =
      (e'.get f).terms.map (Term.renumber f.listedAs) := by
  have hclause : e.clauseParts f = e'.clauseParts f := by
    rw [← about_flatMap (isClause_of_read hread) hfs hf,
      ← about_flatMap (isClause_of_read hread') hfs hf, h]
  obtain ⟨hne, hall⟩ := wellFormed_of_read hread f
  obtain ⟨hne', hall'⟩ := wellFormed_of_read hread' f
  exact FieldName.renumber_eq_of_clauseParts_eq hne hne' hall hall' hclause

/-- The clock tells its time. -/
theorem eq_of_clockPart_eq {hour minute hour' minute' : Int} (hhour : hour ∈ FieldName.hour.domain)
    (hhour' : hour' ∈ FieldName.hour.domain) (hminute : minute ∈ FieldName.minute.domain)
    (hminute' : minute' ∈ FieldName.minute.domain)
    (h : clockPart hour minute = clockPart hour' minute') : hour = hour' ∧ minute = minute' := by
  have hcolon {v : Int} (hv : v ∈ FieldName.hour.domain) : ':' ∉ (twoDigits v).toList :=
    FieldName.hour.legible_write.not_mem hv (by decide)
  have hcolon' {v : Int} (hv : v ∈ FieldName.minute.domain) : ':' ∉ (twoDigits v).toList :=
    FieldName.minute.legible_write.not_mem hv (by decide)
  have hword := List.singleton_inj.1 (List.cons.inj h).2
  have hsides := (List.append_cons_inj_of_notMem (hcolon hhour) (hcolon' hminute)).1 hword
  exact ⟨FieldName.listedAs_eq_of_write (f := .hour) hhour hhour' hsides.1,
    FieldName.listedAs_eq_of_write (f := .minute) hminute hminute' hsides.2.2⟩

/-- A sentence begins with the clause for the minute, unless it begins with a time of the clock. -/
theorem topic_head (hread : Expression.read text = .ok e) :
    (parts e.sentence.toList).head?.bind topic =
      if e.clock?.isSome then none else some .minute := by
  rw [parts_sentence hread, timeParts]
  cases e.clock? with
  | some time => exact topic_clock time.1 time.2
  | none =>
    have hne : e.clauseParts .minute ≠ [] :=
      FieldName.clauseParts_minute_ne_nil (wellFormed_of_read hread .minute).1
    have hclause := isClause_of_read hread .minute
    rw [List.flatMap_cons, List.append_assoc]
    generalize e.clauseParts .minute = ps at hne hclause
    cases hclause with
    | nil => exact absurd rfl hne
    | cons topic_eq => exact topic_eq

/-- **A sentence tells the terms** of all fields, up to the number of Sunday. -/
theorem renumber_eq_of_sentence_eq (hread : Expression.read text = .ok e)
    (hread' : Expression.read text' = .ok e') (h : e.sentence = e'.sentence) (f : FieldName) :
    (e.get f).terms.map (Term.renumber f.listedAs) =
      (e'.get f).terms.map (Term.renumber f.listedAs) := by
  have hparts : parts e.sentence.toList = parts e'.sentence.toList := by rw [h]
  have htopic := topic_head hread
  rw [hparts, topic_head hread'] at htopic
  rw [parts_sentence hread, parts_sentence hread', timeParts, timeParts] at hparts
  cases hclock : e.clock? with
  | none =>
    cases hclock' : e'.clock? with
    | some time => simp [hclock, hclock'] at htopic
    | none =>
      rw [hclock, hclock'] at hparts
      -- all fields have clauses of their own
      have hall : FieldName.all.flatMap e.clauseParts = FieldName.all.flatMap e'.clauseParts := by
        simpa [FieldName.all] using hparts
      have hmem : f ∈ FieldName.all := by cases f <;> decide
      exact renumber_eq_of_flatMap_eq hread hread' (by decide) hall hmem
  | some time =>
    cases hclock' : e'.clock? with
    | none => simp [hclock, hclock'] at htopic
    | some time' =>
      rw [hclock, hclock'] at hparts
      obtain ⟨hminute, hhour⟩ := clock?_eq_some_iff.1 hclock
      obtain ⟨hminute', hhour'⟩ := clock?_eq_some_iff.1 hclock'
      have hcons := List.cons.inj hparts
      obtain ⟨heq, heq'⟩ := eq_of_clockPart_eq (mem_domain_of_single hread hhour)
        (mem_domain_of_single hread' hhour') (mem_domain_of_single hread hminute)
        (mem_domain_of_single hread' hminute') hcons.1
      -- minute and hour are told by the clock, the others by their clauses
      cases f with
      | minute =>
        show e.minute.terms.map _ = e'.minute.terms.map _
        rw [hminute, hminute', heq']
      | hour =>
        show e.hour.terms.map _ = e'.hour.terms.map _
        rw [hhour, hhour', heq]
      | _ => exact renumber_eq_of_flatMap_eq hread hread' (by decide) hcons.2 (by decide)

/-! ### Without a second number for Sunday -/

/-- Numbers other than 7 are listed as they are. -/
theorem renumber_listedAs_eq_self {f : FieldName} {t : Term} (h : t.WellFormed f.domain)
    (hseven : f = .weekday → 7 ∉ t.values) : t.renumber f.listedAs = t := by
  apply Term.renumber_eq_self
  intro v hv
  cases f with
  | weekday =>
    obtain ⟨hmin, hmax⟩ := Term.mem_domain_of_mem_values h hv
    change 0 ≤ v at hmin
    change v ≤ 7 at hmax
    have hne : v ≠ 7 := fun heq => hseven rfl (heq ▸ hv)
    exact Int.emod_eq_of_lt hmin (by omega)
  | _ => rfl

/-- So the terms of a field that was read are what they are under the numbers they are listed as. -/
theorem map_renumber_eq_self (hread : Expression.read text = .ok e) {f : FieldName}
    (hseven : f = .weekday → ∀ t ∈ (e.get f).terms, 7 ∉ t.values) :
    (e.get f).terms.map (Term.renumber f.listedAs) = (e.get f).terms := by
  rw [List.map_congr_left (g := id), List.map_id]
  intro t ht
  exact renumber_listedAs_eq_self ((wellFormed_of_read hread f).2 t ht) fun hf => hseven hf t ht

/-- **The sentence determines the expression**: where no weekday is written as 7, expressions that
are described by one sentence have the same terms in all five fields, in the same order. -/
theorem terms_eq_of_sentence_eq (hread : Expression.read text = .ok e)
    (hread' : Expression.read text' = .ok e') (hseven : ∀ t ∈ e.weekday.terms, 7 ∉ t.values)
    (hseven' : ∀ t ∈ e'.weekday.terms, 7 ∉ t.values) (h : e.sentence = e'.sentence) :
    e.terms = e'.terms := by
  have hnot (f : FieldName) : f = .weekday → ∀ t ∈ (e.get f).terms, 7 ∉ t.values := by
    rintro rfl
    exact hseven
  have hnot' (f : FieldName) : f = .weekday → ∀ t ∈ (e'.get f).terms, 7 ∉ t.values := by
    rintro rfl
    exact hseven'
  have hget (f : FieldName) : (e.get f).terms = (e'.get f).terms := by
    rw [← map_renumber_eq_self hread (hnot f), ← map_renumber_eq_self hread' (hnot' f),
      renumber_eq_of_sentence_eq hread hread' h f]
  refine Fields.ext_get fun f => ?_
  rw [terms, terms, Fields.get_map, Fields.get_map, hget f]

/-- Zeros in front are all that two texts with one sentence may differ in. -/
theorem terms_eq_of_sentence_eq_loose : ∃ e e' : Expression,
    Expression.read "05 4/2 1,015 */3 01-5" = .ok e ∧ Expression.read "5 04/2 1,15 */3 1-5" = .ok e' ∧
    (∀ t ∈ e.weekday.terms, 7 ∉ t.values) ∧ (∀ t ∈ e'.weekday.terms, 7 ∉ t.values) ∧
    e.sentence = e'.sentence ∧ e.text ≠ e'.text ∧ e.terms = e'.terms := by
  obtain ⟨e, hread⟩ : ∃ e, Expression.read "05 4/2 1,015 */3 01-5" = .ok e := ⟨_, rfl⟩
  obtain ⟨e', hread'⟩ : ∃ e, Expression.read "5 04/2 1,15 */3 1-5" = .ok e := ⟨_, rfl⟩
  have hseven : ∀ t ∈ e.weekday.terms, 7 ∉ t.values := by
    cases hread
    decide
  have hseven' : ∀ t ∈ e'.weekday.terms, 7 ∉ t.values := by
    cases hread'
    decide
  have hsentence : e.sentence = e'.sentence := by
    cases hread
    cases hread'
    decide
  have htext : e.text ≠ e'.text := by
    cases hread
    cases hread'
    decide
  exact ⟨e, e', hread, hread', hseven, hseven', hsentence, htext,
    terms_eq_of_sentence_eq hread hread' hseven hseven' hsentence⟩

end Expression

end Cron

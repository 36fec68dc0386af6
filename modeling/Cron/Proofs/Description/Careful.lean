import Cron.Proofs.Description.Clauses

/-! # Sentences can always be written

Some steps of a description are not possible for all values: a name is looked up in a table, a
number is written in at most `Text.Numeral.maxDigits` digits, and the clause for one term needs that
one term. Here each of these steps says whether it can be done, so a description that is written
with care may fail. On an expression that was read it never does: values lie in their domains,
intervals were read from numerals that are short enough, and no field is without terms.

Main statements: `Expression.trySentence_eq_ok` and `tryDescribe_eq_ok`.
-/

namespace Cron

open Text

/-! ## Steps that may fail -/

/-- Why a sentence cannot be written. -/
inductive WriteError where
  /-- The table has no entry at the index. -/
  | noEntry (index : Int)
  /-- The number has too many digits. -/
  | tooLong (n : Int)
  /-- The field has no term. -/
  | noTerm
  deriving DecidableEq

/-- The entry of a table. Indices below zero count from its end. -/
def entry (table : List String) (index : Int) : Except WriteError String :=
  let position := if index < 0 then index + table.length else index
  if 0 ≤ position then
    match table[position.toNat]? with
    | some name => .ok name
    | none => .error (.noEntry index)
  else .error (.noEntry index)

/-- The numeral of a number. -/
def tryNumeral (n : Int) : Except WriteError String :=
  if n.natAbs < Numeral.limit then .ok n.repr else .error (.tooLong n)

/-- The numeral of a number, with at least two digits. -/
def tryTwoDigits (n : Int) : Except WriteError String :=
  if n.natAbs < Numeral.limit then .ok (twoDigits n) else .error (.tooLong n)

/-- All members of a list are written. -/
theorem mapM_eq_ok {α β ε : Type} {f : α → Except ε β} {g : α → β} {xs : List α}
    (h : ∀ x ∈ xs, f x = .ok (g x)) : xs.mapM f = .ok (xs.map g) := by
  induction xs with
  | nil => rfl
  | cons x xs ih =>
    rw [List.forall_mem_cons] at h
    rw [List.mapM_cons, h.1, ih h.2]
    rfl

theorem entry_eq_ok {table : List String} {index : Int} (hzero : 0 ≤ index)
    (hlt : index < table.length) : entry table index = .ok (table.getD index.toNat "") := by
  have hsign : ¬index < 0 := by omega
  have hposition : index.toNat < table.length := by omega
  simp only [entry, if_neg hsign, if_pos hzero, List.getElem?_eq_getElem hposition,
    List.getD_eq_getElem?_getD, Option.getD_some]

theorem tryNumeral_eq_ok {n : Int} (h : n.natAbs < Numeral.limit) : tryNumeral n = .ok n.repr :=
  if_pos h

theorem tryTwoDigits_eq_ok {n : Int} (h : n.natAbs < Numeral.limit) :
    tryTwoDigits n = .ok (twoDigits n) :=
  if_pos h

/-! ## Terms -/

/-- A base as it is written in a field. -/
def Base.tryText : Base → Except WriteError String
  | .wildcard => .ok "*"
  | .single value => tryNumeral value
  | .range first last => do return (← tryNumeral first) ++ "-" ++ (← tryNumeral last)

/-- A term as it is written in a field. -/
def Term.tryText : Term → Except WriteError String
  | .plain base => base.tryText
  | .step base interval => do return (← base.tryText) ++ "/" ++ (← tryNumeral interval)

/-- Terms and sentences write a number alike. -/
theorem Text.Numeral.ofList_render (v : Int) : String.ofList (render v) = v.repr := by
  rw [← toList_repr, String.ofList_toList]

theorem Base.tryText_eq_ok {d : Domain} {b : Base} (h : b.WellFormed d) :
    b.tryText = .ok (String.ofList b.render) := by
  cases b with
  | wildcard => rfl
  | single value =>
    obtain ⟨-, -, hlimit⟩ := h
    rw [tryText, tryNumeral_eq_ok hlimit, render, Numeral.ofList_render]
  | range first last =>
    obtain ⟨-, hle, -, hpos, hlimit⟩ := h
    -- the first number is below the limit because the last one is
    have hlimit' : first.natAbs < Numeral.limit := Nat.lt_of_le_of_lt (by omega) hlimit
    have htext : String.ofList (Base.range first last).render = first.repr ++ "-" ++ last.repr := by
      rw [← Numeral.ofList_render, ← Numeral.ofList_render, ← String.toList_inj]
      simp [render]
    rw [tryText, tryNumeral_eq_ok hlimit', tryNumeral_eq_ok hlimit, htext]
    rfl

theorem Term.tryText_eq_ok {d : Domain} {t : Term} (h : t.WellFormed d) :
    t.tryText = .ok (toString t) := by
  cases t with
  | plain b => exact Base.tryText_eq_ok h
  | step b interval =>
    obtain ⟨hbase, -, hlimit⟩ := h
    have htext : toString (Term.step b interval) =
        String.ofList b.render ++ "/" ++ interval.repr := by
      rw [← Numeral.ofList_render, ← String.toList_inj, toList_toString]
      simp [render]
    rw [tryText, Base.tryText_eq_ok hbase, tryNumeral_eq_ok hlimit, htext]
    rfl

/-! ## Clauses -/

namespace FieldName

/-- A value of the field. -/
def tryWrite : FieldName → Int → Except WriteError String
  | minute, v => tryTwoDigits v
  | hour, v => tryTwoDigits v
  | day, v => tryNumeral v
  | month, v => entry monthNames (v - 1)
  | weekday, v => entry weekdayNames (v % 7)

/-- The end of a range that is a clause of its own. -/
def tryWriteEnd : FieldName → Int → Except WriteError String
  | minute, v => tryNumeral v
  | f, v => f.tryWrite v

/-- The clause for a range. -/
def tryRange (f : FieldName) (first last : Int) : Except WriteError String := do
  return f.phrases.between (← f.tryWriteEnd first) (← f.tryWriteEnd last)

/-- What an interval is counted over, as the end of its clause. -/
def tryScope (f : FieldName) : Base → Except WriteError String
  | .wildcard => .ok ""
  | .single value => do return " " ++ f.phrases.onward (← f.tryWrite value)
  | .range first last => do return " " ++ (← f.tryRange first last)

/-- The clause for an interval. -/
def tryStep (f : FieldName) (base : Base) (interval : Int) : Except WriteError String := do
  return "every " ++ (← tryNumeral interval) ++ " " ++ f.phrases.noun ++
    (if 1 < interval then "s" else "") ++ (← f.tryScope base)

/-- A term as one of several. -/
def tryItem (f : FieldName) : Term → Except WriteError String
  | .plain (.single value) => f.tryWrite value
  | .plain (.range first last) => do return (← f.tryWrite first) ++ "-" ++ (← f.tryWrite last)
  | t => t.tryText

/-- The clause for the terms of a field, if they have one. -/
def tryClause (f : FieldName) : List Term → Except WriteError (Option String)
  | [] => .error .noTerm
  | [.plain .wildcard] => .ok f.phrases.always?
  | [.plain (.single value)] => do return some (f.phrases.only (← f.tryWrite value))
  | [.plain (.range first last)] => do return some (← f.tryRange first last)
  | [.step base interval] => do return some (← f.tryStep base interval)
  | terms => do return some (f.phrases.among (", ".intercalate (← terms.mapM f.tryItem)))

variable {f : FieldName} {v : Int}

theorem tryWrite_eq_ok (h : v ∈ f.domain) : f.tryWrite v = .ok (f.phrases.write v) := by
  have hlimit := Expression.natAbs_lt_limit_of_mem h
  cases f with
  | minute => exact tryTwoDigits_eq_ok hlimit
  | hour => exact tryTwoDigits_eq_ok hlimit
  | day => exact tryNumeral_eq_ok hlimit
  | month =>
    obtain ⟨hmin, hmax⟩ := h
    change 1 ≤ v at hmin
    change v ≤ 12 at hmax
    exact entry_eq_ok (by omega) (by show v - 1 < 12; omega)
  | weekday => exact entry_eq_ok (by omega) (by show v % 7 < 7; omega)

theorem tryWriteEnd_eq_ok (h : v ∈ f.domain) : f.tryWriteEnd v = .ok (f.phrases.writeEnd v) := by
  have hlimit := Expression.natAbs_lt_limit_of_mem h
  have hwrite := tryWrite_eq_ok h
  cases f with
  | minute =>
    show tryNumeral v = .ok v.repr
    exact tryNumeral_eq_ok hlimit
  | _ => exact hwrite

theorem tryRange_eq_ok {first last : Int} (h : (Base.range first last).WellFormed f.domain) :
    f.tryRange first last = .ok (f.phrases.range first last) := by
  rw [tryRange, tryWriteEnd_eq_ok (ends_mem h).1, tryWriteEnd_eq_ok (ends_mem h).2]
  rfl

theorem tryScope_eq_ok {base : Base} (h : base.WellFormed f.domain) :
    f.tryScope base = .ok (f.phrases.scope base) := by
  cases base with
  | wildcard => rfl
  | single value =>
    rw [tryScope, tryWrite_eq_ok h.1]
    rfl
  | range first last =>
    rw [tryScope, tryRange_eq_ok h]
    rfl

theorem tryStep_eq_ok {base : Base} {interval : Int}
    (h : (Term.step base interval).WellFormed f.domain) :
    f.tryStep base interval = .ok (f.phrases.step base interval) := by
  obtain ⟨hbase, -, hlimit⟩ := h
  rw [tryStep, tryNumeral_eq_ok hlimit, tryScope_eq_ok hbase]
  rfl

theorem tryItem_eq_ok {t : Term} (h : t.WellFormed f.domain) :
    f.tryItem t = .ok (f.phrases.item t) := by
  cases t with
  | step base interval => exact Term.tryText_eq_ok h
  | plain base =>
    cases base with
    | wildcard => rfl
    | single value => exact tryWrite_eq_ok h.1
    | range first last =>
      rw [tryItem, tryWrite_eq_ok (ends_mem h).1, tryWrite_eq_ok (ends_mem h).2]
      rfl

/-- Several terms are a list, whatever they are. -/
theorem tryClause_list (f : FieldName) (t u : Term) (ts : List Term) :
    f.tryClause (t :: u :: ts) = do
      return some (f.phrases.among (", ".intercalate (← (t :: u :: ts).mapM f.tryItem))) := by
  match t with
  | .plain .wildcard => rfl
  | .plain (.single _) => rfl
  | .plain (.range _ _) => rfl
  | .step _ _ => rfl

theorem tryClause_eq_ok {terms : List Term} (hne : terms ≠ [])
    (h : ∀ t ∈ terms, t.WellFormed f.domain) :
    f.tryClause terms = .ok (f.phrases.clause? terms) := by
  match terms, hne, h with
  | [.plain .wildcard], _, _ => rfl
  | [.plain (.single value)], _, h =>
    have hterm := h _ List.mem_cons_self
    rw [tryClause, tryWrite_eq_ok hterm.1]
    rfl
  | [.plain (.range first last)], _, h =>
    have hterm := h _ List.mem_cons_self
    rw [tryClause, tryRange_eq_ok hterm]
    rfl
  | [.step base interval], _, h =>
    have hterm := h _ List.mem_cons_self
    rw [tryClause, tryStep_eq_ok hterm]
    rfl
  | t :: u :: ts, _, h =>
    have hitems := mapM_eq_ok fun t ht => tryItem_eq_ok (h t ht)
    rw [tryClause_list, hitems, Phrases.clause?_list]
    rfl

end FieldName

/-! ## Sentences -/

namespace Expression

/-- The clause for one field of the expression, if it has one. -/
def tryClause (e : Expression) (f : FieldName) : Except WriteError (Option String) :=
  f.tryClause (e.get f).terms

/-- The clauses for the time of day. -/
def tryTime (e : Expression) : Except WriteError (List String) :=
  match e.clock? with
  | some (hour, minute) => do
    return ["At " ++ (← tryTwoDigits hour) ++ ":" ++ (← tryTwoDigits minute)]
  | none => do return (← [FieldName.minute, .hour].mapM e.tryClause).reduceOption

/-- The sentence for an expression. The clauses for the date are written first. -/
def trySentence (e : Expression) : Except WriteError String := do
  let date ← [FieldName.day, .month, .weekday].mapM e.tryClause
  let time ← e.tryTime
  return ", ".intercalate (time ++ date.reduceOption)

variable {text : String} {e : Expression}

/-- The clauses of an expression that was read can be written. -/
theorem mapM_tryClause (hread : Expression.read text = .ok e) (fs : List FieldName) :
    fs.mapM e.tryClause = .ok (fs.map e.clause?) := by
  apply mapM_eq_ok
  intro f _
  obtain ⟨hne, hall⟩ := wellFormed_of_read hread f
  exact FieldName.tryClause_eq_ok hne hall

/-- What is written of some fields are their clauses. -/
theorem reduceOption_clauses (e : Expression) (fs : List FieldName) :
    (fs.map e.clause?).reduceOption = fs.filterMap e.clause? :=
  List.filterMap_map

theorem tryTime_eq_ok (hread : Expression.read text = .ok e) : e.tryTime = .ok e.timeClauses := by
  rw [tryTime, timeClauses_eq]
  cases hclock : e.clock? with
  | some time =>
    obtain ⟨hminute, hhour⟩ := clock?_eq_some_iff.1 hclock
    have hlimit := natAbs_lt_limit_of_mem (mem_domain_of_single (n := .hour) hread hhour)
    have hlimit' := natAbs_lt_limit_of_mem (mem_domain_of_single (n := .minute) hread hminute)
    simp only [tryTwoDigits_eq_ok hlimit, tryTwoDigits_eq_ok hlimit']
    rfl
  | none =>
    simp only [mapM_tryClause hread, ← reduceOption_clauses]
    rfl

/-- **A sentence for each expression** that was read. -/
theorem trySentence_eq_ok (hread : Expression.read text = .ok e) :
    e.trySentence = .ok e.sentence := by
  rw [trySentence, mapM_tryClause hread, tryTime_eq_ok hread, sentence, dateClauses,
    ← reduceOption_clauses]
  rfl

end Expression

/-- The sentence for a text. -/
def tryDescribe (text : String) : Except WriteError String :=
  match Expression.read text, Alias.find? text with
  | .error _, _ => .ok invalidSentence
  | .ok _, some a => .ok a.description
  | .ok e, none => e.trySentence

/-- **A sentence for each text**, an expression or not. -/
theorem tryDescribe_eq_ok (text : String) : tryDescribe text = .ok (describe text) := by
  delta tryDescribe describe
  cases hread : Expression.read text with
  | error err => rfl
  | ok e =>
    cases Alias.find? text with
    | some a => rfl
    | none => exact Expression.trySentence_eq_ok hread

end Cron

import Cron.Expression.Printer
import Cron.Proofs.Expression.Grammar
import Cron.Proofs.Term.RoundTrip

/-! # Printed expressions are read back

Five texts that are fields, laid out with single spaces, are read as the expression of those fields:
no blank stands within a field, and five words are no name. The texts may be the ones that an
expression was read from, or its canonical ones, so both are texts of the same terms.

Main statements: `Expression.read_join`, `Expression.read_text` and `Expression.read_canonical`.
-/

namespace Cron

open Text

/-! ## Texts of terms -/

/-- The canonical text of five lists of terms: each list printed, a space between two. -/
def renderFields (fs : Fields (List Term)) : String :=
  " ".intercalate (fs.toList.map fun terms => String.ofList (renderTerms terms))

/-- The fields in the order they are written. -/
theorem Fields.toList_eq_map_get {α : Type} (fs : Fields α) :
    fs.toList = FieldName.all.map fs.get :=
  rfl

/-- Values are compared field by field. -/
theorem Fields.ext_get {α : Type} {fs gs : Fields α} (h : ∀ n : FieldName, fs.get n = gs.get n) :
    fs = gs := by
  have hlist : fs.toList = gs.toList := by
    rw [toList_eq_map_get, toList_eq_map_get]
    exact List.map_congr_left fun n _ => h n
  have hread := Fields.ofList?_eq_some_iff.2 hlist
  rw [Fields.ofList?_eq_some_iff.2 rfl] at hread
  exact Option.some.inj hread

namespace Expression

/-- The terms of an expression. -/
def terms (e : Expression) : Fields (List Term) :=
  e.map fun _ f => f.terms

/-- The expression of five lists of terms, each with its canonical text. -/
def ofTerms (fs : Fields (List Term)) : Expression :=
  fs.map fun _ terms => ⟨String.ofList (renderTerms terms), terms⟩

theorem canonical_eq_renderFields (e : Expression) : e.canonical = renderFields e.terms :=
  rfl

theorem terms_ofTerms (fs : Fields (List Term)) : (ofTerms fs).terms = fs :=
  rfl

theorem text_ofTerms (fs : Fields (List Term)) : (ofTerms fs).text = renderFields fs :=
  rfl

/-! ## Reading them -/

/-- **Fields side by side**: five texts that are fields are read with single spaces between them. -/
theorem read_join {texts : FieldTexts} {e : Expression} (h : ofTexts texts = .ok e) :
    Expression.read (" ".intercalate texts.toList) = .ok e := by
  have hword : ∀ w ∈ texts.toList.map String.toList, w ≠ [] ∧ ∀ c ∈ w, isBlank c = false := by
    intro w hw
    obtain ⟨raw, hraw, rfl⟩ := List.mem_map.1 hw
    rw [Fields.toList_eq_map_get] at hraw
    obtain ⟨n, -, rfl⟩ := List.mem_map.1 hraw
    have hfield := (Field.read_eq_ok_iff.1 (ofTexts_eq_ok_iff.1 h n)).2
    exact Domain.not_blank_of_written (Domain.readField_eq_ok_iff.1 hfield)
  have hwords : words (" ".intercalate texts.toList).toList = texts.toList.map String.toList := by
    rw [String.toList_intercalate]
    exact words_intercalate (by decide) hword
  -- five words are no name
  have hname : Alias.find? (" ".intercalate texts.toList) = none := by
    apply Alias.find?_eq_none
    rw [hwords, List.length_map]
    exact (by decide : 1 < 5)
  rw [read_of_find?_eq_none hname, FieldTexts.read_eq_ok_iff.2 hwords]
  exact h

/-- Five lists of well-formed terms are read from their canonical text. -/
theorem read_renderFields {fs : Fields (List Term)}
    (h : ∀ n : FieldName, fs.get n ≠ [] ∧ ∀ t ∈ fs.get n, t.WellFormed n.domain) :
    Expression.read (renderFields fs) = .ok (ofTerms fs) := by
  have htexts : ofTexts (fs.map fun _ terms => String.ofList (renderTerms terms)) =
      .ok (ofTerms fs) := by
    refine ofTexts_eq_ok_iff.2 fun n => ?_
    rw [ofTerms, Fields.get_map, Fields.get_map]
    exact Field.read_eq_ok_iff.2 ⟨rfl, Domain.readField_renderTerms (h n).1 (h n).2⟩
  have hlist : (fs.map fun _ terms => String.ofList (renderTerms terms)).toList =
      fs.toList.map fun terms => String.ofList (renderTerms terms) := by
    rw [Fields.toList_eq_map_get fs, List.map_map]
    rfl
  rw [renderFields, ← hlist]
  exact read_join htexts

/-- **The text as it was written** is read as the same expression. -/
theorem read_text {text : String} {e : Expression} (h : Expression.read text = .ok e) :
    Expression.read e.text = .ok e := by
  obtain ⟨texts, -, htexts⟩ := exists_of_bind_eq_ok h
  have hraw : texts.toList = e.toList.map Field.raw := by
    rw [Fields.toList_eq_map_get, Fields.toList_eq_map_get, List.map_map]
    apply List.map_congr_left
    intro n _
    exact (Field.read_eq_ok_iff.1 (ofTexts_eq_ok_iff.1 htexts n)).1.symm
  rw [Expression.text, ← hraw]
  exact read_join htexts

/-- **The canonical text** is read as an expression of the same terms. -/
theorem read_canonical {text : String} {e : Expression} (h : Expression.read text = .ok e) :
    Expression.read e.canonical = .ok (ofTerms e.terms) := by
  rw [canonical_eq_renderFields]
  refine read_renderFields fun n => ?_
  rw [terms, Fields.get_map]
  exact wellFormed_of_read h n

end Expression

/-! ## Reading and printing -/

/-- **Reading and printing are inverse**, field by field and for whole expressions. Fields that are
read have terms, all well formed, and all lists of well-formed terms are read from what is printed
of them. The printed fields of an expression are read side by side, as these terms and no others,
and are the text of what is read. So what is read of a text is read of its text and its canonical
text again, and canonical texts stay as they are. -/
theorem reading_inverts_printing :
    (∀ (d : Domain) (text : String) (ts : List Term), d.readField text = .ok ts →
      ts ≠ [] ∧ ∀ t ∈ ts, t.WellFormed d) ∧
    (∀ (d : Domain) (ts : List Term), ts ≠ [] → (∀ t ∈ ts, t.WellFormed d) →
      d.readField (String.ofList (renderTerms ts)) = .ok ts) ∧
    (∀ fs : Fields (List Term),
      (∀ n : FieldName, fs.get n ≠ [] ∧ ∀ t ∈ fs.get n, t.WellFormed n.domain) →
      ∃ e, Expression.read (renderFields fs) = .ok e ∧ e.terms = fs ∧ e.text = renderFields fs) ∧
    (∀ (text : String) (e : Expression), Expression.read text = .ok e →
      Expression.read e.text = .ok e ∧
      ∃ e', Expression.read e.canonical = .ok e' ∧ e'.terms = e.terms ∧
        e'.canonical = e.canonical) := by
  refine ⟨?terms, ?field, ?fields, ?again⟩
  case terms =>
    intro d text ts h
    exact Domain.wellFormed_of_readField h
  case field =>
    intro d ts hne h
    exact Domain.readField_renderTerms hne h
  case fields =>
    intro fs h
    exact ⟨Expression.ofTerms fs, Expression.read_renderFields h, Expression.terms_ofTerms fs,
      Expression.text_ofTerms fs⟩
  case again =>
    intro text e h
    have hcanonical : (Expression.ofTerms e.terms).canonical = e.canonical := by
      rw [Expression.canonical_eq_renderFields, Expression.canonical_eq_renderFields,
        Expression.terms_ofTerms]
    exact ⟨Expression.read_text h, _, Expression.read_canonical h, Expression.terms_ofTerms _,
      hcanonical⟩

/-- Zeros in front, a negative zero, a doubled term and loose layout: `05,*,*/9 0--0/07 1 1 0-7`. -/
theorem reading_inverts_printing_loose : ∃ e e' : Expression,
    Expression.read " 05,*,*/9\t0--0/07  1 1 0-7\n" = .ok e ∧
    e.canonical = "5,*,*/9 0-0/7 1 1 0-7" ∧
    (e.minute.terms ≠ [] ∧ ∀ t ∈ e.minute.terms, t.WellFormed FieldName.minute.domain) ∧
    FieldName.minute.domain.readField (String.ofList (renderTerms e.minute.terms)) =
      .ok e.minute.terms ∧
    (∃ e'', Expression.read (renderFields e.terms) = .ok e'' ∧ e''.terms = e.terms ∧
      e''.text = renderFields e.terms) ∧
    Expression.read e.text = .ok e ∧ Expression.read e.canonical = .ok e' ∧ e'.terms = e.terms ∧
    e'.canonical = e.canonical := by
  obtain ⟨hterms, hfield, hfields, hagain⟩ := reading_inverts_printing
  obtain ⟨e, hread⟩ : ∃ e, Expression.read " 05,*,*/9\t0--0/07  1 1 0-7\n" = .ok e := ⟨_, rfl⟩
  have hcanonical : e.canonical = "5,*,*/9 0-0/7 1 1 0-7" := by
    cases hread
    rfl
  have hformed (n : FieldName) :
      (e.get n).terms ≠ [] ∧ ∀ t ∈ (e.get n).terms, t.WellFormed n.domain := by
    obtain ⟨raw, hraw⟩ := Expression.exists_read_get hread n
    exact hterms _ raw _ (Field.terms_of_read hraw)
  obtain ⟨hne, hminute⟩ := hformed .minute
  have hprinted := hfields e.terms fun n => by
    rw [Expression.terms, Fields.get_map]
    exact hformed n
  obtain ⟨htext, e', hagain⟩ := hagain _ e hread
  exact ⟨e, e', hread, hcanonical, ⟨hne, hminute⟩, hfield _ _ hne hminute, hprinted, htext, hagain⟩

end Cron

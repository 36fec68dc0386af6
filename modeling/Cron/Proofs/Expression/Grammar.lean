import Cron.Proofs.Term.Grammar
import Cron.Proofs.Text.Words

/-! # The texts of expressions

Five words that write fields of the five domains are an expression, and so is a name of a schedule;
no other text is one. Names are single words, so a text of five words is never taken for one.

Main statements: `FieldTexts.read_eq_ok_iff` and `ofTexts_eq_ok_iff`, what the two stages of reading
yield, `Alias.find?_eq_none`, and `exists_read_iff`.
-/

namespace Cron

open Text

/-! ## Names -/

namespace Text

/-- No capital letter of ASCII is blank. -/
theorem isBlank_eq_false_of_isUpper {c : Char} (h : c.val ≥ 'A'.val ∧ c.val ≤ 'Z'.val) :
    isBlank c = false := by
  have hge : 0x41 ≤ c.toNat := UInt32.le_iff_toNat_le.1 h.1
  have hle : c.toNat ≤ 0x5A := UInt32.le_iff_toNat_le.1 h.2
  simp only [isBlank, inRanges, blankRanges, List.any_cons, List.any_nil, Bool.or_false,
    Bool.or_eq_false_iff, Bool.and_eq_false_iff, decide_eq_false_iff_not]
  omega

/-- A blank has no letter case. -/
theorem toLower_of_isBlank {c : Char} (hc : isBlank c = true) : toLower c = c := by
  have hkelvin : c ≠ kelvinSign := by
    rintro rfl
    exact absurd hc (by decide)
  have hupper : ¬ (c.val ≥ 'A'.val ∧ c.val ≤ 'Z'.val) := by
    intro h
    rw [isBlank_eq_false_of_isUpper h] at hc
    cases hc
  rw [toLower, if_neg hkelvin]
  exact dif_neg hupper

end Text

namespace Alias

/-- No name has a blank in it. -/
theorem not_blank_of_mem_all {a : Alias} (ha : a ∈ all) :
    ∀ c ∈ a.name.toList, isBlank c = false := by
  have hnames : (all.all fun a => a.name.toList.all fun c => !isBlank c) = true := by decide
  intro c hc
  simpa using List.all_eq_true.1 (List.all_eq_true.1 hnames a ha) c hc

/-- The expression that a name stands for is one. -/
theorem exists_ofTexts_of_mem_all {a : Alias} (ha : a ∈ all) :
    ∃ e, (FieldTexts.read a.expansion >>= Expression.ofTexts) = .ok e := by
  simp only [all, List.mem_cons, List.not_mem_nil, or_false] at ha
  rcases ha with rfl | rfl | rfl | rfl | rfl | rfl | rfl <;> exact ⟨_, rfl⟩

theorem mem_all_of_find? {text : String} {a : Alias} (h : find? text = some a) :
    a ∈ all ∧ a.name.toList = lowerCase (trim text.toList) := by
  unfold find? at h
  have hname := List.find?_some h
  exact ⟨List.mem_of_find?_eq_some h, eq_of_beq hname⟩

/-- A text of several words is no name. -/
theorem find?_eq_none {text : String} (h : 1 < (words text.toList).length) : find? text = none := by
  cases hfind : find? text with
  | none => rfl
  | some a =>
    obtain ⟨ha, hname⟩ := mem_all_of_find? hfind
    -- without a blank, trimming leaves one word at most
    have hblank : ∀ c ∈ trim text.toList, isBlank c = false := by
      intro c hc
      have hlower : toLower c ∈ a.name.toList := hname ▸ List.mem_map_of_mem hc
      cases hcb : isBlank c with
      | false => rfl
      | true =>
        rw [toLower_of_isBlank hcb] at hlower
        rw [← hcb]
        exact not_blank_of_mem_all ha c hlower
    have hlen := length_words_le_one hblank
    rw [words_trim] at hlen
    omega

end Alias

/-! ## Stages -/

theorem FieldTexts.read_eq_ok_iff {text : String} {texts : FieldTexts} :
    FieldTexts.read text = .ok texts ↔ words text.toList = texts.toList.map String.toList := by
  have hlist : (words text.toList).map String.ofList = texts.toList ↔
      words text.toList = texts.toList.map String.toList := by
    constructor
    · intro h
      rw [← h, List.map_map]
      simp
    · intro h
      rw [h, List.map_map]
      simp
  rw [← hlist, ← Fields.ofList?_eq_some_iff, FieldTexts.read]
  cases Fields.ofList? ((words text.toList).map String.ofList) with
  | none => simp
  | some fs => simp

namespace Expression

/-- Five texts are an expression if each is a field. -/
theorem exists_ofTexts_iff {texts : FieldTexts} :
    (∃ e, ofTexts texts = .ok e) ↔
      ∀ n : FieldName, ∃ terms, n.domain.readField (texts.get n) = .ok terms := by
  constructor
  · rintro ⟨e, he⟩ n
    exact ⟨_, (Field.read_eq_ok_iff.1 (ofTexts_eq_ok_iff.1 he n)).2⟩
  · intro h
    choose terms hterms using h
    refine ⟨texts.map fun n raw => ⟨raw, terms n⟩, ofTexts_eq_ok_iff.2 fun n => ?_⟩
    rw [Fields.get_map]
    exact Field.read_eq_ok_iff.2 ⟨rfl, hterms n⟩

/-- A text that is no name is read as it stands. -/
theorem read_of_find?_eq_none {text : String} (h : Alias.find? text = none) :
    Expression.read text = FieldTexts.read text >>= ofTexts := by
  have hwords : FieldTexts.read (Alias.expand text) = FieldTexts.read text := by
    simp only [Alias.expand, h, FieldTexts.read, String.toList_ofList, words_trim]
  rw [Expression.read, hwords]

theorem read_of_find?_eq_some {text : String} {a : Alias} (h : Alias.find? text = some a) :
    Expression.read text = FieldTexts.read a.expansion >>= ofTexts := by
  simp only [Expression.read, Alias.expand, h]

/-- **Accepted texts**: the names, and the texts of five words that are fields of their domains. -/
theorem exists_read_iff {text : String} :
    (∃ e, Expression.read text = .ok e) ↔
      (∃ a, Alias.find? text = some a) ∨
        ∃ texts : FieldTexts, words text.toList = texts.toList.map String.toList ∧
          ∀ n : FieldName, ∃ terms, n.domain.readField (texts.get n) = .ok terms := by
  constructor
  · rintro ⟨e, he⟩
    cases hfind : Alias.find? text with
    | some a => exact Or.inl ⟨a, rfl⟩
    | none =>
      rw [read_of_find?_eq_none hfind] at he
      obtain ⟨texts, htexts, he⟩ := exists_of_bind_eq_ok he
      exact Or.inr ⟨texts, FieldTexts.read_eq_ok_iff.1 htexts, exists_ofTexts_iff.1 ⟨e, he⟩⟩
  · rintro (⟨a, ha⟩ | ⟨texts, hwords, hfields⟩)
    · rw [read_of_find?_eq_some ha]
      exact Alias.exists_ofTexts_of_mem_all (Alias.mem_all_of_find? ha).1
    · have hcount : 1 < (words text.toList).length := by
        rw [hwords]
        exact (by decide : 1 < 5)
      obtain ⟨e, he⟩ := exists_ofTexts_iff.2 hfields
      refine ⟨e, ?_⟩
      rw [read_of_find?_eq_none (Alias.find?_eq_none hcount), FieldTexts.read_eq_ok_iff.2 hwords]
      exact he

end Expression

/-! ## The grammar -/

/-- **The readers accept exactly the grammar**, for every domain and every text. A term is read just
if the grammar writes it, as the term it writes; that is one at most, so the forms exclude each
other, and a minus after the dash of a range leaves only zero. A field is read just if all its parts
are, empty ones included, and five texts just if each is a field of its domain. Besides texts of
five such words only the names are read. -/
theorem readers_accept_grammar :
    (∀ (d : Domain) (cs : List Char) (t : Term), d.readTerm cs = .ok t ↔ t.Written d cs) ∧
    (∀ (d d' : Domain) (cs : List Char) (t t' : Term),
      t.Written d cs → t'.Written d' cs → t = t') ∧
    (∀ (d : Domain) (before after : List Char) (b : Base), '-' ∉ before →
      b.Written d (before ++ '-' :: '-' :: after) → b = .range 0 0) ∧
    (∀ (d : Domain) (text : String) (terms : List Term),
      d.readField text = .ok terms ↔ d.Written text.toList terms) ∧
    (∀ (d : Domain) (text : String), (∃ terms, d.readField text = .ok terms) ↔
      ∀ part ∈ text.toList.splitOn ',', ∃ t, d.readTerm part = .ok t) ∧
    (∀ texts : FieldTexts, (∃ e, Expression.ofTexts texts = .ok e) ↔
      ∀ n : FieldName, ∃ terms, n.domain.readField (texts.get n) = .ok terms) ∧
    (∀ text : String, (∃ e, Expression.read text = .ok e) ↔
      (∃ a, Alias.find? text = some a) ∨
        ∃ texts : FieldTexts, words text.toList = texts.toList.map String.toList ∧
          ∀ n : FieldName, ∃ terms, n.domain.readField (texts.get n) = .ok terms) := by
  refine ⟨fun d cs t => Domain.readTerm_eq_ok_iff, fun d d' cs t t' => Domain.eq_of_written,
    fun d before after b => Domain.eq_range_zero_of_minus,
    fun d text terms => Domain.readField_eq_ok_iff, ?parts,
    fun texts => Expression.exists_ofTexts_iff, fun text => Expression.exists_read_iff⟩
  case parts =>
    intro d text
    simp only [Domain.readField_eq_ok_iff, Domain.readTerm_eq_ok_iff]
    exact Domain.exists_written_iff

/-- The text `0--0/15` has its one form in two domains that hold zero. -/
theorem readers_accept_negative_zero :
    Term.Written ⟨"level", -5, 5⟩ "0--0/15".toList (.step (.range 0 0) 15) ∧
    Term.Written ⟨"minute", 0, 59⟩ "0--0/15".toList (.step (.range 0 0) 15) ∧
    Term.step (.range 0 0) 15 = Term.step (.range 0 0) 15 ∧
    '-' ∉ ['0'] ∧ Base.Written ⟨"level", -5, 5⟩ (['0'] ++ '-' :: '-' :: ['0']) (.range 0 0) ∧
    Base.range 0 0 = .range 0 0 := by
  obtain ⟨hterm, hone, hzero, -⟩ := readers_accept_grammar
  have hlevel : Term.Written ⟨"level", -5, 5⟩ "0--0/15".toList (.step (.range 0 0) 15) :=
    (hterm _ _ _).1 rfl
  have hminute : Term.Written ⟨"minute", 0, 59⟩ "0--0/15".toList (.step (.range 0 0) 15) :=
    (hterm _ _ _).1 rfl
  have hbase : Base.Written ⟨"level", -5, 5⟩ (['0'] ++ '-' :: '-' :: ['0']) (.range 0 0) :=
    Domain.readBase_eq_ok_iff.1 rfl
  exact ⟨hlevel, hminute, hone _ _ _ _ _ hlevel hminute, by decide, hbase,
    hzero _ _ _ _ (by decide) hbase⟩

end Cron

import Cron.Description
import Cron.Proofs.Expression.Grammar
import Cron.Proofs.Text.Trim

/-! # Layout and names

Whatever is made of a text is made of its words. A text is a name just if its one word is, so blanks
around a name count as little as blanks between fields: texts of the same words are the same name or
none, and are read and described alike. A name may be replaced by the expression it stands for, and
that expression is no name, so the replacement is done once and for all.

Main statements: `Alias.find?_eq_some_iff_words`, `Expression.read_congr`, `describe_congr` and
`Alias.expand_expand`.
-/

namespace Cron

open Text

variable {text text' : String}

/-! ## Names -/

namespace Alias

variable {a : Alias}

/-- No two names are spelled alike. -/
theorem find?_name_eq_some (ha : a ∈ all) :
    all.find? (fun b => b.name.toList == a.name.toList) = some a := by
  have hall : ∀ a ∈ all, all.find? (fun b => b.name.toList == a.name.toList) = some a := by decide
  exact hall a ha

/-- A text is the name that it spells in lower case, blanks around it aside. -/
theorem find?_eq_some_iff :
    find? text = some a ↔ a ∈ all ∧ a.name.toList = lowerCase (trim text.toList) := by
  constructor
  · exact mem_all_of_find?
  · rintro ⟨ha, hname⟩
    rw [find?, ← hname]
    exact find?_name_eq_some ha

/-- A text that is a name has one word. -/
theorem exists_words_eq_of_find? (h : find? text = some a) : ∃ w, words text.toList = [w] := by
  have hlen : ¬ 1 < (words text.toList).length := by
    intro hlen
    rw [find?_eq_none hlen] at h
    cases h
  have hne : words text.toList ≠ [] := by
    obtain ⟨ha, hname⟩ := find?_eq_some_iff.1 h
    have hnames : ∀ a ∈ all, a.name.toList ≠ [] := by decide
    rw [← words_trim]
    cases htrim : trim text.toList with
    | nil =>
      rw [htrim] at hname
      exact absurd hname (hnames a ha)
    | cons c cs =>
      have hts : Trimmed isBlank (c :: cs) := htrim ▸ (exists_eq_append_trimBy isBlank _).1
      exact words_ne_nil_of_mem List.mem_cons_self (hts.first c rfl)
  have hpos : 0 < (words text.toList).length := List.length_pos_iff.2 hne
  exact List.length_eq_one_iff.1 (by omega)

/-- **A name is one word**, whatever blanks stand around it. -/
theorem find?_eq_some_iff_words : find? text = some a ↔
    a ∈ all ∧ ∃ w, words text.toList = [w] ∧ a.name.toList = lowerCase w := by
  constructor
  · intro h
    obtain ⟨ha, hname⟩ := find?_eq_some_iff.1 h
    obtain ⟨w, hwords⟩ := exists_words_eq_of_find? h
    rw [trim_eq_of_words_eq hwords] at hname
    exact ⟨ha, w, hwords, hname⟩
  · rintro ⟨ha, w, hwords, hname⟩
    rw [← trim_eq_of_words_eq hwords] at hname
    exact find?_eq_some_iff.2 ⟨ha, hname⟩

theorem find?_congr (h : words text'.toList = words text.toList) : find? text' = find? text := by
  apply Option.ext
  intro a
  rw [find?_eq_some_iff_words, find?_eq_some_iff_words, h]

/-- What a name stands for is no name, and has no blanks around it. -/
theorem expand_expansion (ha : a ∈ all) : expand a.expansion = a.expansion := by
  have hall : ∀ a ∈ all, expand a.expansion = a.expansion := by decide
  exact hall a ha

theorem expand_of_find?_eq_none (h : find? text = none) :
    expand text = String.ofList (trim text.toList) := by
  rw [expand, h]

/-- A text that is no name keeps its words. -/
theorem words_expand (h : find? text = none) :
    words (expand text).toList = words text.toList := by
  rw [expand_of_find?_eq_none h, String.toList_ofList, words_trim]

/-- **Names are replaced once and for all.** -/
theorem expand_expand (text : String) : expand (expand text) = expand text := by
  cases h : find? text with
  | some a =>
    have hexpand : expand text = a.expansion := by rw [expand, h]
    rw [hexpand]
    exact expand_expansion (mem_all_of_find? h).1
  | none =>
    have hagain : find? (expand text) = none := (find?_congr (words_expand h)).trans h
    rw [expand_of_find?_eq_none hagain, expand_of_find?_eq_none h, String.toList_ofList, trim_trim]

end Alias

/-! ## Texts of the same words -/

theorem FieldTexts.read_congr (h : words text'.toList = words text.toList) :
    FieldTexts.read text' = FieldTexts.read text := by
  rw [FieldTexts.read, FieldTexts.read, h]

/-- The words that are counted are those of the text or of the expression it names. -/
theorem FieldTexts.read_expand_congr (h : words text'.toList = words text.toList) :
    FieldTexts.read (Alias.expand text') = FieldTexts.read (Alias.expand text) := by
  cases hname : Alias.find? text with
  | some a =>
    have hname' : Alias.find? text' = some a := (Alias.find?_congr h).trans hname
    rw [Alias.expand, Alias.expand, hname, hname']
  | none =>
    have hname' : Alias.find? text' = none := (Alias.find?_congr h).trans hname
    apply FieldTexts.read_congr
    rw [Alias.words_expand hname, Alias.words_expand hname', h]

theorem Expression.read_congr (h : words text'.toList = words text.toList) :
    Expression.read text' = Expression.read text := by
  rw [Expression.read, Expression.read, FieldTexts.read_expand_congr h]

theorem describe_congr (h : words text'.toList = words text.toList) :
    describe text' = describe text := by
  delta describe
  rw [Expression.read_congr h, Alias.find?_congr h]

/-- The words of a text with single spaces between them. -/
def respaced (text : String) : String :=
  " ".intercalate ((words text.toList).map String.ofList)

theorem words_respaced (text : String) : words (respaced text).toList = words text.toList := by
  have hmap : ((words text.toList).map String.ofList).map String.toList = words text.toList := by
    rw [List.map_map]
    simp
  rw [respaced, String.toList_intercalate, hmap]
  exact words_intercalate (by decide) fun w hw => ne_nil_and_not_blank_of_mem_words hw

/-! ## Names and what they stand for -/

theorem Expression.read_expand (text : String) :
    Expression.read (Alias.expand text) = Expression.read text := by
  rw [Expression.read, Expression.read, Alias.expand_expand]

theorem describe_of_find? {a : Alias} (h : Alias.find? text = some a) :
    describe text = a.description := by
  obtain ⟨e, he⟩ := Alias.exists_ofTexts_of_mem_all (Alias.mem_all_of_find? h).1
  delta describe
  rw [Expression.read_of_find?_eq_some h, he, h]

/-- **A name has a sentence of its own**; any other text is described as what it is read as. -/
theorem describe_expand_eq_iff (text : String) :
    describe (Alias.expand text) = describe text ↔ Alias.find? text = none := by
  have hnames : ∀ a ∈ Alias.all, describe a.expansion ≠ a.description := by decide
  constructor
  · intro h
    cases hname : Alias.find? text with
    | none => rfl
    | some a =>
      rw [describe_of_find? hname, Alias.expand, hname] at h
      exact absurd h (hnames a (Alias.mem_all_of_find? hname).1)
  · intro hname
    exact describe_congr (Alias.words_expand hname)

end Cron

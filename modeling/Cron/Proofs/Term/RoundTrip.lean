import Cron.Proofs.Term.Grammar
import Cron.Term.Printer

/-! # Printed terms are read back

Printer and reader meet in the grammar: what is printed of a well-formed term is written there, and
what is written is read. Of a field nothing more is needed than that no comma stands in a term.

Main statements: `Term.written_render` and `Domain.readField_renderTerms`. No field has a blank in
it, `Domain.not_blank_of_written`, so fields may be laid out with blanks between them.
-/

namespace Cron

open Text Text.Numeral

/-! ## Numerals -/

namespace Text.Numeral

theorem digits_toDigits {n : Nat} (h : n < limit) : Digits (Nat.toDigits 10 n) n :=
  readDigits_eq_some_iff_digits.1 (readDigits_toDigits h)

/-- What is not negative is printed without a minus. -/
theorem exists_digits_render {v : Int} (hpos : 0 ≤ v) (h : v.natAbs < limit) :
    ∃ n : Nat, v = n ∧ Digits (render v) n := by
  obtain ⟨n, rfl⟩ := Int.eq_ofNat_of_zero_le hpos
  refine ⟨n, rfl, ?_⟩
  rw [render, if_neg (by omega)]
  exact digits_toDigits h

end Text.Numeral

/-! ## Terms -/

variable {d : Domain}

theorem Base.written_render {b : Base} (h : b.WellFormed d) : b.Written d b.render := by
  cases b with
  | wildcard => exact .wildcard
  | single value =>
    obtain ⟨hmem, hpos, hlimit⟩ := h
    obtain ⟨n, rfl, hdigits⟩ := exists_digits_render hpos hlimit
    exact .single hdigits hmem
  | range first last =>
    obtain ⟨hmin, hle, hmax, hpos, hlimit⟩ := h
    -- the first number is below the limit because the last one is
    have hfirst_limit : first.natAbs < limit := Nat.lt_of_le_of_lt (by omega) hlimit
    obtain ⟨n, rfl, hfirst⟩ := exists_digits_render hpos hfirst_limit
    obtain ⟨m, rfl, hlast⟩ := exists_digits_render (Int.le_trans hpos hle) hlimit
    exact .range hfirst (.plain hlast) hmin hle hmax

theorem Term.written_render {t : Term} (h : t.WellFormed d) : t.Written d t.render := by
  cases t with
  | plain base => exact .plain (Base.written_render h)
  | step base interval =>
    obtain ⟨hbase, hpos, hlimit⟩ := h
    obtain ⟨n, rfl, hdigits⟩ := exists_digits_render (Int.le_of_lt hpos) hlimit
    exact .step (Base.written_render hbase) hdigits (Int.natCast_pos.1 hpos)

/-! ### Blanks and commas -/

/-- The characters of terms are neither commas nor blanks. -/
theorem IsTermChar.ne_comma {c : Char} (h : IsTermChar c) : c ≠ ',' := by
  rintro rfl
  exact absurd h (by decide)

theorem IsTermChar.not_blank {c : Char} (h : IsTermChar c) : isBlank c = false := by
  rcases h with hdigit | rfl | rfl | rfl
  · exact isBlank_eq_false_of_isDigit hdigit
  all_goals decide

theorem Base.Written.ne_nil {b : Base} {cs : List Char} (h : b.Written d cs) : cs ≠ [] := by
  cases h with
  | wildcard => exact List.cons_ne_nil _ _
  | single digits => exact List.length_pos_iff.1 digits.length_pos
  | range => exact List.append_ne_nil_of_right_ne_nil _ (List.cons_ne_nil _ _)

theorem Term.Written.ne_nil {t : Term} {cs : List Char} (h : t.Written d cs) : cs ≠ [] := by
  cases h with
  | plain written => exact written.ne_nil
  | step => exact List.append_ne_nil_of_right_ne_nil _ (List.cons_ne_nil _ _)

/-! ## Fields -/

namespace Domain

/-- A character of a text with separators is a separator or stands between two. -/
theorem eq_or_mem_of_mem_intercalate {sep c : Char} {parts : List (List Char)}
    (h : c ∈ [sep].intercalate parts) : c = sep ∨ ∃ part ∈ parts, c ∈ part := by
  induction parts with
  | nil => cases h
  | cons part parts ih =>
    cases parts with
    | nil =>
      rw [List.intercalate_singleton] at h
      exact Or.inr ⟨part, List.mem_cons_self, h⟩
    | cons next parts =>
      rw [List.intercalate_cons_cons, List.append_assoc] at h
      rcases List.mem_append.1 h with h | h
      · exact Or.inr ⟨part, List.mem_cons_self, h⟩
      · rcases List.mem_cons.1 h with rfl | h
        · exact Or.inl rfl
        · exact (ih h).imp_right fun ⟨p, hp, hc⟩ => ⟨p, List.mem_cons_of_mem part hp, hc⟩

/-- **No blank in a field**: what writes a field is a word. -/
theorem not_blank_of_written {cs : List Char} {terms : List Term} (h : d.Written cs terms) :
    cs ≠ [] ∧ ∀ c ∈ cs, isBlank c = false := by
  have hparts := exists_written_iff.1 ⟨terms, h⟩
  constructor
  · -- the one part of the empty text is no term
    rintro rfl
    obtain ⟨t, ht⟩ := hparts [] List.mem_cons_self
    exact ht.ne_nil rfl
  · intro c hc
    have hjoin : [','].intercalate (cs.splitOn ',') = cs := List.intercalate_splitOn ','
    rw [← hjoin] at hc
    rcases eq_or_mem_of_mem_intercalate hc with rfl | ⟨part, hpart, hc⟩
    · decide
    · obtain ⟨t, ht⟩ := hparts part hpart
      exact (ht.isTermChar hc).not_blank

theorem written_renderTerms {terms : List Term} (hne : terms ≠ [])
    (h : ∀ t ∈ terms, t.WellFormed d) : d.Written (renderTerms terms) terms := by
  have hcomma : ∀ part ∈ terms.map Term.render, ',' ∉ part := by
    intro part hpart hmem
    obtain ⟨t, ht, rfl⟩ := List.mem_map.1 hpart
    exact ((Term.written_render (h t ht)).isTermChar hmem).ne_comma rfl
  rw [Written, renderTerms, List.splitOn_intercalate ',' hcomma (by simpa using hne),
    List.forall₂_map_left_iff, List.forall₂_same]
  intro t ht
  exact Term.written_render (h t ht)

/-- **Printed fields are read back**, with the terms in their order. -/
theorem readField_renderTerms {terms : List Term} (hne : terms ≠ [])
    (h : ∀ t ∈ terms, t.WellFormed d) :
    d.readField (String.ofList (renderTerms terms)) = .ok terms := by
  rw [readField_eq_ok_iff, String.toList_ofList]
  exact written_renderTerms hne h

end Domain

end Cron

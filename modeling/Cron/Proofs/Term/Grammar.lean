import Cron.Proofs.Term.WellFormed
import Mathlib.Data.List.Forall2

/-! # The grammar of terms

What a term looks like is said here without reference to how it is read. A numeral is a run of
decimal digits. A base is a star, a numeral, or two numerals with a dash between them, of which the
second may have a minus; a term is a base, or a base, a slash and the numeral of an interval. Each
numeral comes with its value, and the values have to lie in the domain. A field is written by terms
with commas between them.

The readers look for marks instead, and cut at the first one. Main statements: `readTerm_eq_ok_iff`
and `readField_eq_ok_iff`, that they read exactly what the grammar writes.
-/

namespace Cron

open Text

/-! ## Numerals -/

namespace Text.Numeral

/-- **Digits**: one to `maxDigits` decimal digits of ASCII, zeros in front counted, and the number
that they write. -/
structure Digits (cs : List Char) (n : Nat) : Prop where
  length_pos : 1 ≤ cs.length
  length_le : cs.length ≤ maxDigits
  isDigit : ∀ c ∈ cs, c.isDigit = true
  value : Nat.ofDigitChars 10 cs 0 = n

/-- **Signed digits**: digits, with or without a minus before them. -/
inductive SignedDigits : List Char → Int → Prop
  | plain {cs : List Char} {n : Nat} (h : Digits cs n) : SignedDigits cs n
  | minus {cs : List Char} {n : Nat} (h : Digits cs n) : SignedDigits ('-' :: cs) (-n)

variable {cs : List Char}

theorem Digits.not_mem {n : Nat} (h : Digits cs n) {c : Char} (hc : c.isDigit = false) :
    c ∉ cs := by
  intro hmem
  rw [h.isDigit c hmem] at hc
  cases hc

/-- Digits do not begin with a minus, so the sign decides how signed digits are read. -/
theorem Digits.ne_minus {n : Nat} (h : Digits cs n) (rest : List Char) : cs ≠ '-' :: rest := by
  rintro rfl
  exact h.not_mem (by decide) List.mem_cons_self

theorem readDigits_eq_some_iff_digits {n : Nat} : readDigits cs = some n ↔ Digits cs n := by
  rw [readDigits_eq_some_iff, List.all_eq_true, ← List.length_pos_iff]
  constructor
  · rintro ⟨⟨hpos, hle, hall⟩, hvalue⟩
    exact ⟨hpos, hle, hall, hvalue⟩
  · intro h
    exact ⟨⟨h.length_pos, h.length_le, h.isDigit⟩, h.value⟩

theorem readPlain_eq_some_iff {n : Int} : readPlain cs = some n ↔ SignedDigits cs n := by
  constructor
  · intro h
    unfold readPlain at h
    split at h
    · obtain ⟨m, hm, rfl⟩ := Option.map_eq_some_iff.1 h
      rw [Int.negOfNat_eq]
      exact .minus (readDigits_eq_some_iff_digits.1 hm)
    · obtain ⟨m, hm, rfl⟩ := Option.map_eq_some_iff.1 h
      exact .plain (readDigits_eq_some_iff_digits.1 hm)
  · intro h
    cases h with
    | plain h =>
      unfold readPlain
      split
      · next rest => exact absurd rfl (h.ne_minus rest)
      · rw [readDigits_eq_some_iff_digits.2 h]
        rfl
    | minus h =>
      rw [readPlain, readDigits_eq_some_iff_digits.2 h, Option.map_some, Int.negOfNat_eq]
      rfl

/-- Without a dash no minus can stand before the digits. -/
theorem SignedDigits.exists_digits {n : Int} (h : SignedDigits cs n) (hdash : '-' ∉ cs) :
    ∃ m : Nat, n = m ∧ Digits cs m := by
  cases h with
  | plain h => exact ⟨_, rfl, h⟩
  | minus h => exact absurd List.mem_cons_self hdash

/-- A positive number has no minus. -/
theorem SignedDigits.exists_digits_of_pos {n : Int} (h : SignedDigits cs n) (hpos : 0 < n) :
    ∃ m : Nat, n = m ∧ Digits cs m := by
  cases h with
  | plain h => exact ⟨_, rfl, h⟩
  | minus h => omega

theorem SignedDigits.isDigit_or_minus {n : Int} (h : SignedDigits cs n) {c : Char} (hc : c ∈ cs) :
    c.isDigit = true ∨ c = '-' := by
  cases h with
  | plain h => exact Or.inl (h.isDigit c hc)
  | minus h =>
    rcases List.mem_cons.1 hc with rfl | hc
    · exact Or.inr rfl
    · exact Or.inl (h.isDigit c hc)

end Text.Numeral

open Text.Numeral

/-! ## Terms -/

/-- The texts of a base whose values lie in the domain. -/
inductive Base.Written (d : Domain) : List Char → Base → Prop
  /-- A star. -/
  | wildcard : Base.Written d ['*'] .wildcard
  /-- A numeral. -/
  | single {cs : List Char} {value : Nat} (digits : Digits cs value) (mem : (value : Int) ∈ d) :
    Base.Written d cs (.single value)
  /-- Two numerals with a dash between them; only the second may have a minus. -/
  | range {before after : List Char} {first : Nat} {last : Int} (digits : Digits before first)
    (digits' : SignedDigits after last) (minimum_le : d.minimum ≤ first) (le : first ≤ last)
    (le_maximum : last ≤ d.maximum) :
    Base.Written d (before ++ '-' :: after) (.range first last)

/-- The texts of a term whose values lie in the domain. -/
inductive Term.Written (d : Domain) : List Char → Term → Prop
  /-- A base. -/
  | plain {cs : List Char} {base : Base} (written : base.Written d cs) :
    Term.Written d cs (.plain base)
  /-- A base, a slash and the numeral of a positive interval. -/
  | step {before after : List Char} {base : Base} {interval : Nat}
    (written : base.Written d before) (digits : Digits after interval) (pos : 0 < interval) :
    Term.Written d (before ++ '/' :: after) (.step base interval)

/-- The texts of a field: terms with commas between them. -/
def Domain.Written (d : Domain) (cs : List Char) (terms : List Term) : Prop :=
  List.Forall₂ (fun part t => t.Written d part) (cs.splitOn ',') terms

/-! ### Wider domains -/

section mono

variable {d d' : Domain} {cs : List Char} (hmin : d'.minimum ≤ d.minimum)
  (hmax : d.maximum ≤ d'.maximum)

include hmin hmax

theorem Base.Written.mono {b : Base} (h : b.Written d cs) : b.Written d' cs := by
  cases h with
  | wildcard => exact .wildcard
  | single digits mem =>
    exact .single digits ⟨Int.le_trans hmin mem.1, Int.le_trans mem.2 hmax⟩
  | range digits digits' minimum_le le le_maximum =>
    exact .range digits digits' (Int.le_trans hmin minimum_le) le (Int.le_trans le_maximum hmax)

theorem Term.Written.mono {t : Term} (h : t.Written d cs) : t.Written d' cs := by
  cases h with
  | plain written => exact .plain (written.mono hmin hmax)
  | step written digits pos => exact .step (written.mono hmin hmax) digits pos

end mono

/-! ### Characters of terms -/

/-- The characters that terms consist of. -/
def IsTermChar (c : Char) : Prop :=
  c.isDigit = true ∨ c = '*' ∨ c = '-' ∨ c = '/'

instance (c : Char) : Decidable (IsTermChar c) := inferInstanceAs (Decidable (_ ∨ _))

section chars

variable {d : Domain} {cs : List Char} {c : Char}

/-- The marks of a base are the star and the dash. -/
theorem Base.Written.mark {b : Base} (h : b.Written d cs) (hc : c ∈ cs) :
    c.isDigit = true ∨ c = '*' ∨ c = '-' := by
  cases h with
  | wildcard => exact Or.inr (Or.inl (List.mem_singleton.1 hc))
  | single digits => exact Or.inl (digits.isDigit c hc)
  | range digits digits' =>
    rcases List.mem_append.1 hc with hc | hc
    · exact Or.inl (digits.isDigit c hc)
    · rcases List.mem_cons.1 hc with rfl | hc
      · exact Or.inr (Or.inr rfl)
      · exact (digits'.isDigit_or_minus hc).imp_right Or.inr

theorem Base.Written.slash_not_mem {b : Base} (h : b.Written d cs) : '/' ∉ cs := by
  intro hc
  exact absurd (h.mark hc) (by decide)

theorem Term.Written.isTermChar {t : Term} (h : t.Written d cs) (hc : c ∈ cs) : IsTermChar c := by
  have hbase {b : Base} {bs : List Char} (h : b.Written d bs) (hc : c ∈ bs) : IsTermChar c := by
    rcases h.mark hc with hdigit | rfl | rfl
    · exact Or.inl hdigit
    · exact Or.inr (Or.inl rfl)
    · exact Or.inr (Or.inr (Or.inl rfl))
  cases h with
  | plain written => exact hbase written hc
  | step written digits =>
    rcases List.mem_append.1 hc with hc | hc
    · exact hbase written hc
    · rcases List.mem_cons.1 hc with rfl | hc
      · exact Or.inr (Or.inr (Or.inr rfl))
      · exact Or.inl (digits.isDigit c hc)

end chars

/-! ## What is read is written, and the other way round -/

namespace Domain

variable {d : Domain} {cs : List Char}

theorem readSingle_eq_ok_iff {b : Base} (hdash : '-' ∉ cs) :
    d.readSingle cs = .ok b ↔ ∃ value : Nat, b = .single value ∧ Digits cs value ∧
      (value : Int) ∈ d := by
  constructor
  · intro h
    unfold readSingle at h
    split at h
    · next value hvalue =>
      obtain ⟨n, rfl, hdigits⟩ := (readPlain_eq_some_iff.1 hvalue).exists_digits hdash
      split at h
      · next hmem =>
        cases h
        exact ⟨n, rfl, hdigits, hmem⟩
      · cases h
    · cases h
  · rintro ⟨n, rfl, hdigits, hmem⟩
    rw [readSingle, readPlain_eq_some_iff.2 (.plain hdigits)]
    simp only [hmem, if_true]

theorem readRange_eq_ok_iff {before after : List Char} {b : Base} (hdash : '-' ∉ before) :
    d.readRange before after = .ok b ↔ ∃ (first : Nat) (last : Int), b = .range first last ∧
      Digits before first ∧ SignedDigits after last ∧
      d.minimum ≤ first ∧ first ≤ last ∧ last ≤ d.maximum := by
  constructor
  · intro h
    unfold readRange at h
    split at h
    · next first last hfirst hlast =>
      obtain ⟨n, rfl, hdigits⟩ := (readPlain_eq_some_iff.1 hfirst).exists_digits hdash
      split at h
      · next hle =>
        cases h
        exact ⟨n, last, rfl, hdigits, readPlain_eq_some_iff.1 hlast, hle⟩
      · cases h
    · cases h
  · rintro ⟨n, last, rfl, hdigits, hlast, hle⟩
    rw [readRange, readPlain_eq_some_iff.2 (.plain hdigits), readPlain_eq_some_iff.2 hlast]
    simp only [hle, and_self, if_true]

theorem readBase_eq_ok_iff {b : Base} : d.readBase cs = .ok b ↔ b.Written d cs := by
  constructor
  · intro h
    unfold readBase at h
    split at h
    · next hstar =>
      cases h
      rw [hstar]
      exact .wildcard
    · split at h
      · next before after hcut =>
        -- the dash that was cut out stands between the two numerals
        obtain ⟨rfl, hdash⟩ := cut_eq_some_iff.1 hcut
        obtain ⟨first, last, rfl, hfirst, hlast, hmin, hle, hmax⟩ :=
          (readRange_eq_ok_iff hdash).1 h
        exact .range hfirst hlast hmin hle hmax
      · next hcut =>
        obtain ⟨value, rfl, hdigits, hmem⟩ := (readSingle_eq_ok_iff (cut_eq_none_iff.1 hcut)).1 h
        exact .single hdigits hmem
  · intro h
    cases h with
    | wildcard => rfl
    | single digits mem =>
      have hdash : '-' ∉ cs := digits.not_mem (by decide)
      have hstar : cs ≠ ['*'] := by
        rintro rfl
        exact digits.not_mem (c := '*') (by decide) List.mem_cons_self
      rw [readBase, if_neg hstar, cut_eq_none_iff.2 hdash]
      exact (readSingle_eq_ok_iff hdash).2 ⟨_, rfl, digits, mem⟩
    | @range before after first last digits digits' minimum_le le le_maximum =>
      have hdash : '-' ∉ before := digits.not_mem (by decide)
      have hstar : before ++ '-' :: after ≠ ['*'] := by
        intro heq
        have hmem : '-' ∈ ['*'] := heq ▸ List.mem_append_right before List.mem_cons_self
        exact absurd hmem (by decide)
      rw [readBase, if_neg hstar, cut_eq_some_iff.2 ⟨rfl, hdash⟩]
      exact (readRange_eq_ok_iff hdash).2
        ⟨first, last, rfl, digits, digits', minimum_le, le, le_maximum⟩

/-- **Terms**: the reader accepts exactly the texts of the grammar, with the terms it gives them. -/
theorem readTerm_eq_ok_iff {t : Term} : d.readTerm cs = .ok t ↔ t.Written d cs := by
  constructor
  · intro h
    unfold readTerm at h
    split at h
    · obtain ⟨b, hb, rfl⟩ := exists_of_map_eq_ok h
      exact .plain (readBase_eq_ok_iff.1 hb)
    · next before after hcut =>
      obtain ⟨rfl, -⟩ := cut_eq_some_iff.1 hcut
      split at h
      · next interval hinterval =>
        split at h
        · next hpos =>
          -- a positive interval has no minus
          obtain ⟨b, hb, rfl⟩ := exists_of_map_eq_ok h
          obtain ⟨n, rfl, hdigits⟩ :=
            (readPlain_eq_some_iff.1 hinterval).exists_digits_of_pos hpos
          exact .step (readBase_eq_ok_iff.1 hb) hdigits (Int.natCast_pos.1 hpos)
        · cases h
      · cases h
  · intro h
    cases h with
    | plain written =>
      rw [readTerm, cut_eq_none_iff.2 written.slash_not_mem]
      simp only [readBase_eq_ok_iff.2 written, Except.map]
    | step written digits pos =>
      rw [readTerm, cut_eq_some_iff.2 ⟨rfl, written.slash_not_mem⟩]
      simp only [readPlain_eq_some_iff.2 (.plain digits), Int.natCast_pos.2 pos, if_true,
        readBase_eq_ok_iff.2 written, Except.map]

/-- **One form**: a text writes at most one term, whatever the domain, so it has at most one of the
forms of the grammar. -/
theorem eq_of_written {d' : Domain} {t t' : Term} (h : t.Written d cs) (h' : t'.Written d' cs) :
    t = t' := by
  -- both terms are read in a domain that includes the two
  let both : Domain := ⟨d.name, min d.minimum d'.minimum, max d.maximum d'.maximum⟩
  have hleft : both.readTerm cs = .ok t :=
    readTerm_eq_ok_iff.2 (h.mono (Int.min_le_left _ _) (Int.le_max_left _ _))
  have hright : both.readTerm cs = .ok t' :=
    readTerm_eq_ok_iff.2 (h'.mono (Int.min_le_right _ _) (Int.le_max_right _ _))
  rw [hleft] at hright
  exact Except.ok.inj hright

/-- **Negative zero**: a minus after the dash of a range stands before a zero, and zero is all that
the range holds. -/
theorem eq_range_zero_of_minus {before after : List Char} {b : Base} (hdash : '-' ∉ before)
    (h : b.Written d (before ++ '-' :: '-' :: after)) : b = .range 0 0 := by
  generalize hcs : before ++ '-' :: '-' :: after = cs at h
  have hmem : '-' ∈ cs := hcs ▸ List.mem_append_right before List.mem_cons_self
  cases h with
  | wildcard => exact absurd hmem (by decide)
  | single digits => exact absurd hmem (digits.not_mem (by decide))
  | @range before' after' first last digits digits' _ hle =>
    -- both cuts are at the first dash, so the second numeral begins with the minus
    have hcut : cut '-' (before ++ '-' :: '-' :: after) = some (before', after') :=
      cut_eq_some_iff.2 ⟨hcs, digits.not_mem (by decide)⟩
    rw [cut_eq_some_iff.2 ⟨rfl, hdash⟩] at hcut
    cases hcut
    cases digits' with
    | plain hlast => exact absurd rfl (hlast.ne_minus after)
    | @minus _ n hlast =>
      obtain ⟨rfl, rfl⟩ : first = 0 ∧ n = 0 := by omega
      rfl

/-! ## Fields -/

theorem readTerms_eq_ok_iff {parts : List (List Char)} {terms : List Term} :
    d.readTerms parts = .ok terms ↔ List.Forall₂ (fun part t => t.Written d part) parts terms := by
  induction parts generalizing terms with
  | nil =>
    rw [readTerms, List.forall₂_nil_left_iff]
    exact ⟨fun h => (Except.ok.inj h).symm, fun h => congrArg Except.ok h.symm⟩
  | cons part parts ih =>
    rw [readTerms]
    constructor
    · intro h
      split at h
      · cases h
      · next t ht =>
        obtain ⟨ts, hts, rfl⟩ := exists_of_map_eq_ok h
        exact .cons (readTerm_eq_ok_iff.1 ht) (ih.1 hts)
    · intro h
      cases h with
      | cons ht hts =>
        simp only [readTerm_eq_ok_iff.2 ht, ih.2 hts, Except.map]

/-- **Fields**: a field is read exactly if it is written by terms with commas between them. -/
theorem readField_eq_ok_iff {text : String} {terms : List Term} :
    d.readField text = .ok terms ↔ d.Written text.toList terms := by
  unfold Written
  rw [← readTerms_eq_ok_iff, readField]
  constructor
  · exact eq_ok_of_mapError_eq_ok
  · intro h
    rw [h]
    rfl

/-- A field is written as soon as each part of it is. -/
theorem exists_written_iff :
    (∃ terms, d.Written cs terms) ↔ ∀ part ∈ cs.splitOn ',', ∃ t : Term, t.Written d part := by
  unfold Written
  generalize cs.splitOn ',' = parts
  induction parts with
  | nil => simp
  | cons part parts ih =>
    rw [List.forall_mem_cons, ← ih]
    constructor
    · rintro ⟨terms, h⟩
      cases h with
      | cons ht hts => exact ⟨⟨_, ht⟩, _, hts⟩
    · rintro ⟨⟨t, ht⟩, ts, hts⟩
      exact ⟨t :: ts, .cons ht hts⟩

end Domain

end Cron

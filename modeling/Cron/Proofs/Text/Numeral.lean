import Cron.Text.Numeral

/-! # Numerals tell their numbers

Whatever way a number is written here, with or without zeros in front and with or without a minus,
it can be had back from its characters; so different numbers have different numerals. Digits are
letters and digits in the sense of words.

Main statements: `ofDigitChars_padded`, `render_injective`, and `toList_repr`, that there is one way
to write an integer.
-/

namespace Cron.Text.Numeral

/-! ## Digits -/

/-- Zeros in front add nothing. -/
theorem ofDigitChars_replicate_zero (k : Nat) :
    Nat.ofDigitChars 10 (List.replicate k '0') 0 = 0 := by
  induction k with
  | zero => rfl
  | succ k ih =>
    rw [List.replicate_succ, Nat.ofDigitChars_cons]
    exact ih

/-- A number that was filled up with zeros is read back. -/
theorem ofDigitChars_padded (width n : Nat) : Nat.ofDigitChars 10 (padded width n) 0 = n := by
  rw [padded, List.leftpad, Nat.ofDigitChars_append, ofDigitChars_replicate_zero,
    Nat.ofDigitChars_ten_toDigits]

theorem toDigits_injective {m n : Nat} (h : Nat.toDigits 10 m = Nat.toDigits 10 n) : m = n := by
  rw [← Nat.ofDigitChars_ten_toDigits (n := m), h, Nat.ofDigitChars_ten_toDigits]

theorem isAlphanum_of_isDigit {c : Char} (h : c.isDigit = true) : c.isAlphanum = true := by
  rw [Char.isAlphanum, h, Bool.or_true]

theorem isAlphanum_of_mem_toDigits {n : Nat} {c : Char} (hc : c ∈ Nat.toDigits 10 n) :
    c.isAlphanum = true :=
  isAlphanum_of_isDigit (Nat.isDigit_of_mem_toDigits (by decide) (by decide) hc)

theorem isAlphanum_of_mem_padded {width n : Nat} {c : Char} (hc : c ∈ padded width n) :
    c.isAlphanum = true := by
  rcases List.mem_append.1 hc with hc | hc
  · rw [List.eq_of_mem_replicate hc]
    decide
  · exact isAlphanum_of_mem_toDigits hc

/-! ## Integers -/

/-- No number begins with a minus unless it is negative. -/
theorem toDigits_ne_minus (n : Nat) (rest : List Char) : Nat.toDigits 10 n ≠ '-' :: rest := by
  intro h
  have hminus : '-' ∈ Nat.toDigits 10 n := h ▸ List.mem_cons_self
  exact absurd (isAlphanum_of_mem_toDigits hminus) (by decide)

/-- Integers are told apart by their numerals. -/
theorem render_injective {m n : Int} (h : render m = render n) : m = n := by
  unfold render at h
  split at h
  · split at h
    · have habs := toDigits_injective (List.cons.inj h).2
      omega
    · exact absurd h.symm (toDigits_ne_minus _ _)
  · split at h
    · exact absurd h (toDigits_ne_minus _ _)
    · have habs := toDigits_injective h
      omega

/-- What is not negative is written in digits. -/
theorem render_of_nonneg {v : Int} (h : 0 ≤ v) : render v = Nat.toDigits 10 v.toNat := by
  obtain ⟨n, rfl⟩ := Int.eq_ofNat_of_zero_le h
  rw [render, if_neg (by omega)]
  rfl

/-- Terms, sentences and records write an integer alike. -/
theorem toList_repr (v : Int) : v.repr.toList = render v := by
  cases v with
  | ofNat n =>
    have hpos : 0 ≤ Int.ofNat n := Int.natCast_nonneg n
    rw [render_of_nonneg hpos]
    exact Nat.toList_repr
  | negSucc n =>
    rw [render, if_pos (Int.negSucc_lt_zero n)]
    show ("-" ++ (n + 1).repr).toList = '-' :: Nat.toDigits 10 (n + 1)
    rw [String.toList_append, Nat.toList_repr]
    rfl

theorem repr_injective {m n : Int} (h : m.repr = n.repr) : m = n := by
  apply render_injective
  rw [← toList_repr, ← toList_repr, h]

end Cron.Text.Numeral

import Cron.Description
import Cron.Proofs.Expression.Listed
import Cron.Proofs.Text.Numeral
import Cron.Proofs.Text.Parts

/-! # Values as they are written in sentences

Minutes and hours are written with two digits, days as they are, months and weekdays by name. Each
of these is a word of letters and digits, and it tells the value; only of a Sunday it does not tell
which of its two numbers was meant.

Main statements: `FieldName.legible_write` and `FieldName.legible_writeEnd`.
-/

namespace Cron

open Text

open Text.Numeral

/-! ## Legible values -/

/-- **Legible**: each value of the domain is written as one word of letters and digits, which tells
the value up to the number of Sunday. -/
structure Legible (f : FieldName) (write : Int → String) : Prop where
  ne_nil : ∀ v ∈ f.domain, (write v).toList ≠ []
  isAlphanum : ∀ v ∈ f.domain, ∀ c ∈ (write v).toList, c.isAlphanum = true
  listedAs_eq : ∀ v ∈ f.domain, ∀ w ∈ f.domain, write v = write w → f.listedAs v = f.listedAs w

namespace Legible

variable {f : FieldName} {write : Int → String} {v : Int}

theorem isWord (h : Legible f write) (hv : v ∈ f.domain) : IsWord (write v).toList :=
  isWord_of_isAlphanum (h.ne_nil v hv) (h.isAlphanum v hv)

theorem not_mem (h : Legible f write) (hv : v ∈ f.domain) {c : Char} (hc : c.isAlphanum = false) :
    c ∉ (write v).toList := by
  intro hmem
  rw [h.isAlphanum v hv c hmem] at hc
  cases hc

/-- Digits that are read back as the number are legible. -/
theorem of_digits (hzero : 0 ≤ f.domain.minimum)
    (hdigits : ∀ n : Nat, ∀ c ∈ (write n).toList, c.isAlphanum = true)
    (hread : ∀ n : Nat, Nat.ofDigitChars 10 (write n).toList 0 = n)
    (hne : ∀ n : Nat, (write n).toList ≠ []) : Legible f write where
  ne_nil := by
    intro v hv
    obtain ⟨n, rfl⟩ := Int.eq_ofNat_of_zero_le (Int.le_trans hzero hv.1)
    exact hne n
  isAlphanum := by
    intro v hv
    obtain ⟨n, rfl⟩ := Int.eq_ofNat_of_zero_le (Int.le_trans hzero hv.1)
    exact hdigits n
  listedAs_eq := by
    intro v hv w hw heq
    obtain ⟨n, rfl⟩ := Int.eq_ofNat_of_zero_le (Int.le_trans hzero hv.1)
    obtain ⟨m, rfl⟩ := Int.eq_ofNat_of_zero_le (Int.le_trans hzero hw.1)
    have hnm : n = m := by rw [← hread n, ← hread m, heq]
    rw [hnm]

theorem twoDigits (hzero : 0 ≤ f.domain.minimum) : Legible f twoDigits := by
  have htext (n : Nat) : (Cron.twoDigits n).toList = padded 2 n := String.toList_ofList
  apply of_digits hzero
  · intro n c hc
    rw [htext] at hc
    exact isAlphanum_of_mem_padded hc
  · intro n
    rw [htext, ofDigitChars_padded]
  · intro n
    rw [htext]
    exact List.append_ne_nil_of_right_ne_nil _ Nat.toDigits_ne_nil

theorem repr (hzero : 0 ≤ f.domain.minimum) : Legible f Int.repr := by
  have htext (n : Nat) : (n : Int).repr.toList = Nat.toDigits 10 n := Nat.toList_repr
  apply of_digits hzero
  · intro n c hc
    rw [htext] at hc
    exact isAlphanum_of_mem_toDigits hc
  · intro n
    rw [htext, Nat.ofDigitChars_ten_toDigits]
  · intro n
    rw [htext]
    exact Nat.toDigits_ne_nil

/-- Names are legible if a look at each pair of values shows it. -/
theorem of_values
    (hchars : ∀ v ∈ f.domain.values, (write v).toList ≠ [] ∧
      (write v).toList.all Char.isAlphanum = true)
    (hnames : ∀ v ∈ f.domain.values, ∀ w ∈ f.domain.values,
      write v = write w → f.listedAs v = f.listedAs w) : Legible f write where
  ne_nil := fun v hv => (hchars v (Domain.mem_values_iff.2 hv)).1
  isAlphanum := fun v hv => List.all_eq_true.1 (hchars v (Domain.mem_values_iff.2 hv)).2
  listedAs_eq := fun v hv w hw =>
    hnames v (Domain.mem_values_iff.2 hv) w (Domain.mem_values_iff.2 hw)

theorem monthName : Legible .month monthName :=
  of_values (by decide +kernel) (by decide +kernel)

theorem weekdayName : Legible .weekday weekdayName :=
  of_values (by decide +kernel) (by decide +kernel)

end Legible

namespace FieldName

/-- The values of each field are legible. -/
theorem legible_write (f : FieldName) : Legible f f.phrases.write := by
  cases f with
  | minute => exact .twoDigits (by decide)
  | hour => exact .twoDigits (by decide)
  | day => exact .repr (by decide)
  | month => exact .monthName
  | weekday => exact .weekdayName

/-- So are the ends of its ranges. -/
theorem legible_writeEnd (f : FieldName) : Legible f f.phrases.writeEnd := by
  cases f with
  | minute => exact .repr (by decide)
  | hour => exact .twoDigits (by decide)
  | day => exact .repr (by decide)
  | month => exact .monthName
  | weekday => exact .weekdayName

end FieldName

end Cron

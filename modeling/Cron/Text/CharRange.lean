/-! # Character classes given by code point ranges

A character class of a standard is data: a list of closed ranges of code points. This module says
when a character lies in such a list, once for every class of the library.
-/

namespace Cron.Text

/-- A closed range of code points, its first and its last member. -/
abbrev CharRange := Nat × Nat

/-- Some range of the list holds the code point of `c`. -/
def inRanges (ranges : List CharRange) (c : Char) : Bool :=
  ranges.any fun (first, last) => first ≤ c.toNat && c.toNat ≤ last

theorem inRanges_eq_true_iff {ranges : List CharRange} {c : Char} :
    inRanges ranges c = true ↔ ∃ r ∈ ranges, r.1 ≤ c.toNat ∧ c.toNat ≤ r.2 := by
  simp [inRanges]

/-- The letters and digits of ASCII. -/
def alphanumRanges : List CharRange :=
  [(0x30, 0x39), (0x41, 0x5A), (0x61, 0x7A)]

theorem inRanges_of_isAlphanum {c : Char} (h : c.isAlphanum = true) :
    inRanges alphanumRanges c = true := by
  change (decide ('A'.val ≤ c.val ∧ c.val ≤ 'Z'.val) ||
    (decide ('a'.val ≤ c.val) && decide (c.val ≤ 'z'.val)) ||
    (decide ('0'.val ≤ c.val) && decide (c.val ≤ '9'.val))) = true at h
  simp only [Bool.or_eq_true, Bool.and_eq_true, decide_eq_true_eq, UInt32.le_iff_toNat_le,
    Char.toNat_val] at h
  refine inRanges_eq_true_iff.2 ?_
  rcases h with (h | h) | h
  · exact ⟨(0x41, 0x5A), .tail _ (.head _), h⟩
  · exact ⟨(0x61, 0x7A), .tail _ (.tail _ (.head _)), h⟩
  · exact ⟨(0x30, 0x39), .head _, h⟩

end Cron.Text

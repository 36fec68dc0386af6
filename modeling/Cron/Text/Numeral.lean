import Cron.Text.Blank
import Cron.Text.DecimalDigit

/-! # Numerals

Two ways to write an integer. A *plain* numeral is what stands in a cron field: an optional minus
and ASCII digits. A *loose* numeral is what stands in an environment variable: padding around it, an
optional sign, decimal digits of any script, and single underscores between digits. Either kind has
at most `maxDigits` digits, leading zeros counted.

Main statement: `readDigits_toDigits`, the digits of a number below that bound are read back.
-/

namespace Cron.Text.Numeral

/-- The longest numeral that is read, in digits. -/
def maxDigits : Nat := 4300

/-- The numbers below this one are those with a numeral of at most that many digits. -/
def limit : Nat := Nat.pow 10 maxDigits

/-! ## Plain numerals -/

/-- The number written by a run of ASCII digits, neither empty nor too long. -/
def readDigits (cs : List Char) : Option Nat :=
  if cs ≠ [] ∧ cs.length ≤ maxDigits ∧ cs.all Char.isDigit then some (Nat.ofDigitChars 10 cs 0)
  else none

theorem readDigits_eq_some_iff {cs : List Char} {n : Nat} :
    readDigits cs = some n ↔
      (cs ≠ [] ∧ cs.length ≤ maxDigits ∧ cs.all Char.isDigit) ∧ Nat.ofDigitChars 10 cs 0 = n := by
  unfold readDigits
  split
  · next h => exact ⟨fun hn => ⟨h, Option.some.inj hn⟩, fun hn => congrArg some hn.2⟩
  · next h => exact ⟨(nomatch ·), fun hn => absurd hn.1 h⟩

/-- The integer written by a plain numeral. -/
def readPlain : List Char → Option Int
  | '-' :: cs => (readDigits cs).map Int.negOfNat
  | cs => (readDigits cs).map Int.ofNat

/-- The shortest plain numeral of an integer. -/
def render (n : Int) : List Char :=
  if n < 0 then '-' :: Nat.toDigits 10 n.natAbs else Nat.toDigits 10 n.natAbs

/-- A natural number filled up with zeros on the left to `width` digits. -/
def padded (width n : Nat) : List Char :=
  (Nat.toDigits 10 n).leftpad width '0'

theorem readDigits_toDigits {n : Nat} (h : n < limit) :
    readDigits (Nat.toDigits 10 n) = some n := by
  -- stated for any bound, since the power itself is never to be computed
  have hlength (k : Nat) (hpos : 0 < k) (hk : n < Nat.pow 10 k) :
      (Nat.toDigits 10 n).length ≤ k :=
    (Nat.length_toDigits_le_iff (by decide) hpos).2 hk
  unfold limit at h
  have hlen : (Nat.toDigits 10 n).length ≤ maxDigits := hlength maxDigits (by decide) h
  have hall : (Nat.toDigits 10 n).all Char.isDigit = true :=
    List.all_eq_true.2 fun _ hc => Nat.isDigit_of_mem_toDigits (by decide) (by decide) hc
  simp only [readDigits, ne_eq, Nat.toDigits_ne_nil, not_false_eq_true, hlen, hall, and_self,
    if_true, Nat.ofDigitChars_ten_toDigits]

/-! ## Loose numerals -/

/-- Padding around a loose numeral: any blank but the four information separators. -/
def isPadding (c : Char) : Bool :=
  isBlank c && !(0x1C ≤ c.toNat && c.toNat ≤ 0x1F)

/-- The number written by decimal digits of any script in groups parted by single underscores. -/
def readGroups (cs : List Char) : Option Nat :=
  let groups := cs.splitOn '_'
  if groups.all fun group => !group.isEmpty then
    match groups.flatten.mapM digitValue? with
    | some digits =>
      if digits.length ≤ maxDigits then
        some (digits.foldl (fun value digit => 10 * value + digit) 0)
      else none
    | none => none
  else none

/-- The integer written by a loose numeral. -/
def readLoose (cs : List Char) : Option Int :=
  match trimBy isPadding cs with
  | '-' :: body => (readGroups body).map Int.negOfNat
  | '+' :: body => (readGroups body).map Int.ofNat
  | body => (readGroups body).map Int.ofNat

example : readLoose "\u3000-1_0\u0663 ".toList = some (-103) := by decide

end Cron.Text.Numeral

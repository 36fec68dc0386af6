/-! # Natural numbers with a decimal point

A natural number is written in fixed-point form, in scientific form, or in the general form, which
is the fixed-point one unless the number has more digits than are asked for. Where digits have to be
dropped, the number is rounded to the nearest that fits, and to the even one of two.
-/

namespace Cron.Text

/-- How the forms with a decimal point are spelled. -/
structure DecimalStyle where
  /-- Keep the point where nothing follows it, and the zeros at the end of the general form. -/
  full : Bool
  /-- Introduce the exponent by a capital letter. -/
  capital : Bool
  deriving DecidableEq

/-- The quotient rounded to the nearest natural number, a half to the even neighbour. -/
def roundDiv (n d : Nat) : Nat :=
  if 2 * (n % d) < d ∨ 2 * (n % d) = d ∧ n / d % 2 = 0 then n / d else n / d + 1

example : [5, 15, 25, 26].map (roundDiv · 10) = [0, 2, 2, 3] := by decide

/-- The first `count` digits of the rounded number, with zeros where it has fewer, and the power of
ten of the first of them. -/
def significant (count n : Nat) : List Char × Nat :=
  let digits := Nat.toDigits 10 n
  if digits.length ≤ count then (digits.rightpad count '0', digits.length - 1)
  else
    let rounded := Nat.toDigits 10 (roundDiv n (Nat.pow 10 (digits.length - count)))
    (rounded.take count, digits.length - 1 + (rounded.length - count))

example : significant 3 42 = (['4', '2', '0'], 1) := by decide
example : significant 2 996 = (['1', '0'], 3) := by decide

/-- The point and the digits after it. -/
def fraction (style : DecimalStyle) (digits : List Char) : List Char :=
  if digits.isEmpty && !style.full then [] else '.' :: digits

/-- The digits without the zeros at their end, unless the style keeps them. -/
def trimZeros (style : DecimalStyle) (digits : List Char) : List Char :=
  if style.full then digits else (digits.reverse.dropWhile (· == '0')).reverse

/-- The exponent of a power of ten, of two digits at least. -/
def exponent (style : DecimalStyle) (power : Nat) : List Char :=
  (if style.capital then 'E' else 'e') :: '+' :: (Nat.toDigits 10 power).leftpad 2 '0'

/-- The number with `places` digits after the point. -/
def fixedPoint (style : DecimalStyle) (places n : Nat) : List Char :=
  Nat.toDigits 10 n ++ fraction style (List.replicate places '0')

/-- The number with one digit before the point, `places` digits after it, and an exponent. -/
def scientific (style : DecimalStyle) (places n : Nat) : List Char :=
  let (digits, power) := significant (places + 1) n
  digits.take 1 ++ fraction style (digits.drop 1) ++ exponent style power

/-- The number with `count` significant digits, one at least: in scientific form if the point comes
after more digits than that. -/
def general (style : DecimalStyle) (count n : Nat) : List Char :=
  let (digits, power) := significant (max count 1) n
  if power < max count 1 then
    digits.take (power + 1) ++ fraction style (trimZeros style (digits.drop (power + 1)))
  else
    digits.take 1 ++ fraction style (trimZeros style (digits.drop 1)) ++ exponent style power

example : fixedPoint ⟨false, false⟩ 2 10 = "10.00".toList := by decide
example : scientific ⟨false, true⟩ 1 125 = "1.2E+02".toList := by decide
example : general ⟨false, false⟩ 6 10 = "10".toList := by decide
example : general ⟨true, false⟩ 1 10 = "1.e+01".toList := by decide

end Cron.Text

import Cron.Log.Directive
import Cron.Text.DecimalForm
import Cron.Text.Quoted

/-! # Data and their conversions

A datum is a text or a number. Every conversion of a text suits a number too, which is then written
in decimal; the conversions of numbers suit no text.
-/

namespace Cron.Log

open Text

/-- A datum of a record. -/
inductive Datum where
  | text (t : String)
  | number (n : Int)
  deriving DecidableEq

/-- The datum as it is. -/
def Datum.plain : Datum → String
  | text t => t
  | number n => n.repr

/-- The datum with a text written by `quote`. -/
def Datum.quotedBy (quote : String → String) : Datum → String
  | text t => quote t
  | number n => n.repr

/-- The character that the datum is, or whose code point it is. -/
def Datum.character? : Datum → Option Char
  | text t =>
    match t.toList with
    | [c] => some c
    | _ => none
  | number n => if 0 ≤ n ∧ n.toNat.isValidChar then some (Char.ofNat n.toNat) else none

/-! ## Conversions -/

/-- The number of digits after the point, or of significant ones, where no precision is given. -/
def defaultPlaces : Nat := 6

/-- The largest precision of a number that is written in digits alone. -/
def maxFilled : Nat := Nat.pow 2 31 - 4

/-- Digits filled up with zeros to a precision, if it is none too large. -/
def filled? (precision : Option Nat) (digits : List Char) : Option (List Char) :=
  if precision.getD 0 ≤ maxFilled then some (digits.leftpad (precision.getD 0) '0') else none

/-- The number of digits after the point in scientific form; the largest precision leaves none. -/
def scientificPlaces (precision : Option Nat) : Nat :=
  if precision = some maxPrecision then 0 else precision.getD defaultPlaces

/-- The mark of the base and the digits of a natural number, for the conversions of numbers. -/
def Conversion.numeral? (alternate : Bool) (precision : Option Nat) (n : Nat) :
    Conversion → Option (List Char × List Char)
  | decimal => (filled? precision (Nat.toDigits 10 n)).map fun digits => ([], digits)
  | octal =>
    (filled? precision (Nat.toDigits 8 n)).map fun digits =>
      (if alternate then ['0', 'o'] else [], digits)
  | hexadecimal capital =>
    let mark := if alternate then ['0', 'x'] else []
    (filled? precision (Nat.toDigits 16 n)).map fun digits =>
      if capital then (mark.map Char.toUpper, digits.map Char.toUpper) else (mark, digits)
  | fixedPoint => some ([], Text.fixedPoint ⟨alternate, false⟩ (precision.getD defaultPlaces) n)
  | scientific capital =>
    some ([], Text.scientific ⟨alternate, capital⟩ (scientificPlaces precision) n)
  | general capital =>
    some ([], Text.general ⟨alternate, capital⟩ (precision.getD defaultPlaces) n)
  | plain | quoted | quotedInAscii | character => none

/-- What a conversion makes of a datum, if it suits it. A precision cuts a text. -/
def Conversion.write (flags : Flags) (width : Nat) (precision : Option Nat) (datum : Datum)
    (conversion : Conversion) : Option (List Char) :=
  let cutText (t : String) : List Char := flags.layText width <|
    match precision with
    | some n => t.toList.take n
    | none => t.toList
  match conversion with
  | plain => some (cutText datum.plain)
  | quoted => some (cutText (datum.quotedBy Text.quoted))
  | quotedInAscii => some (cutText (datum.quotedBy Text.quotedInAscii))
  | character => datum.character?.map fun c => flags.layText width [c]
  | numeric =>
    match datum with
    | .text _ => none
    | .number n =>
      (numeric.numeral? flags.alternate precision n.natAbs).map fun (mark, digits) =>
        flags.layNumber width (n < 0) mark digits

end Cron.Log

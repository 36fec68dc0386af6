import Cron.Calendar.Instant
import Cron.Text.Numeral

/-! # Instants as text

An instant is written as `YYYY-MM-DDTHH:MM:SS`, then a point and six digits of a second if there are
any microseconds, then the offset from universal time if it has one: a sign, hours and minutes, and
seconds if there are any. The reader takes the same form.
-/

namespace Cron.Calendar.Instant

open Cron.Text

/-! ## Printing -/

/-- An offset from universal time, given in seconds. -/
def renderOffset (seconds : Int) : List Char :=
  let size := seconds.natAbs
  let mark := if seconds < 0 then '-' else '+'
  let rest := if size % 60 = 0 then [] else ':' :: Numeral.padded 2 (size % 60)
  mark :: Numeral.padded 2 (size / 3600) ++ ':' :: Numeral.padded 2 (size / 60 % 60) ++ rest

/-- The characters of an instant. -/
def render (x : Instant) : List Char :=
  Numeral.padded 4 x.date.year ++ '-' :: Numeral.padded 2 x.date.month ++
    '-' :: Numeral.padded 2 x.date.day ++ 'T' :: Numeral.padded 2 x.hour ++
    ':' :: Numeral.padded 2 x.minute ++ ':' :: Numeral.padded 2 x.second ++
    (if x.microsecond = 0 then [] else '.' :: Numeral.padded 6 x.microsecond) ++
    (x.offset.map renderOffset).getD []

instance : ToString Instant :=
  ⟨fun x => String.ofList x.render⟩

/-! ## Reading -/

/-- A number of exactly `width` digits at the front of the text, and what follows it. -/
def takeNumber (width : Nat) (cs : List Char) : Option (Nat × List Char) :=
  let digits := cs.take width
  if digits.length = width ∧ digits.all Char.isDigit then
    some (Nat.ofDigitChars 10 digits 0, cs.drop width)
  else none

/-- What follows the mark that the text has to begin with. -/
def takeMark (mark : Char) : List Char → Option (List Char)
  | [] => none
  | c :: cs => if c = mark then some cs else none

/-- A number of `width` digits after a mark, and what follows it. -/
def takeMarked (mark : Char) (width : Nat) (cs : List Char) : Option (Nat × List Char) :=
  (takeMark mark cs).bind (takeNumber width)

/-- The same, where no mark means zero. -/
def takeOptional (mark : Char) (width : Nat) (cs : List Char) : Option (Nat × List Char) :=
  if cs.head? = some mark then takeMarked mark width cs else some (0, cs)

/-- The offset that ends the text, if any, in seconds. -/
def readOffset : List Char → Option (Option Int)
  | [] => some none
  | mark :: cs => do
    let (hours, cs) ← takeNumber 2 cs
    let (minutes, cs) ← takeMarked ':' 2 cs
    let (seconds, cs) ← takeOptional ':' 2 cs
    if cs ≠ [] ∨ 24 ≤ hours ∨ 60 ≤ minutes ∨ 60 ≤ seconds then none
    else if mark = '+' then some (some ((hours * 60 + minutes) * 60 + seconds : Nat))
    else if mark = '-' then some (some (-((hours * 60 + minutes) * 60 + seconds : Nat)))
    else none

/-- The instant of a date, a time of day and an offset, where there is one. -/
def ofParts? (date : Date) (hour minute second microsecond : Nat) (offset : Option Int) :
    Option Instant :=
  if h : hour < 24 ∧ minute < 60 ∧ second < 60 ∧ microsecond < 1000000 then
    some ⟨date, hour, minute, second, microsecond, h.1, h.2.1, h.2.2.1, h.2.2.2, offset⟩
  else none

/-- The instant that a list of characters writes. -/
def readChars (cs : List Char) : Option Instant := do
  let (year, cs) ← takeNumber 4 cs
  let (month, cs) ← takeMarked '-' 2 cs
  let (day, cs) ← takeMarked '-' 2 cs
  let (hour, cs) ← takeMarked 'T' 2 cs
  let (minute, cs) ← takeMarked ':' 2 cs
  let (second, cs) ← takeMarked ':' 2 cs
  let (microsecond, cs) ← takeOptional '.' 6 cs
  let offset ← readOffset cs
  let date ← Date.ofParts? year month day
  ofParts? date hour minute second microsecond offset

/-- The instant that a text writes, where it writes one. -/
def ofString? (text : String) : Option Instant :=
  readChars text.toList

example : (ofString? "2024-02-29T10:30:45.000001-08:00").map toString =
    some "2024-02-29T10:30:45.000001-08:00" := by decide

end Cron.Calendar.Instant

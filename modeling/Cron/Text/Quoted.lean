import Cron.Text.Printable

/-! # Quoted text in messages

A message that cites a text cites it between quotation marks, with every character that would not
show, and every character that would end the quotation early, written as an escape.
-/

namespace Cron.Text

/-- The single quotation mark. -/
def singleQuote : Char := '\x27'

/-- The double quotation mark. -/
def doubleQuote : Char := '\x22'

/-- A number in hexadecimal, filled up with zeros on the left to `width` digits. -/
def hexadecimal (width n : Nat) : List Char :=
  (Nat.toDigits 16 n).leftpad width '0'

/-- How one character is written between two marks `mark`, where the characters that `shows` accepts
stand for themselves. -/
def escaped (shows : Char → Bool) (mark c : Char) : List Char :=
  if c = '\\' ∨ c = mark then ['\\', c]
  else if c = '\n' then ['\\', 'n']
  else if c = '\r' then ['\\', 'r']
  else if c = '\t' then ['\\', 't']
  else if shows c then [c]
  else if c.toNat < 0x100 then '\\' :: 'x' :: hexadecimal 2 c.toNat
  else if c.toNat < 0x10000 then '\\' :: 'u' :: hexadecimal 4 c.toNat
  else '\\' :: 'U' :: hexadecimal 8 c.toNat

/-- The mark around a text: single, unless the text has single marks and no double ones. -/
def quotationMark (cs : List Char) : Char :=
  if singleQuote ∈ cs ∧ doubleQuote ∉ cs then doubleQuote else singleQuote

/-- The text between quotation marks, escaped but for the characters that `shows` accepts. -/
def quotedBy (shows : Char → Bool) (text : String) : String :=
  let cs := text.toList
  let mark := quotationMark cs
  String.ofList (mark :: cs.flatMap (escaped shows mark) ++ [mark])

/-- The text between quotation marks, hidden characters escaped. -/
def quoted (text : String) : String :=
  quotedBy isPrintable text

/-- The text between quotation marks, all escaped that is hidden or beyond ASCII. -/
def quotedInAscii (text : String) : String :=
  quotedBy (fun c => isPrintable c && c.toNat < 0x80) text

example : quoted "it\x27s\n\u200b" = "\"it\x27s\\n\\u200b\"" := by decide +kernel
example : quotedInAscii "\u00e9\u3000" = "\x27\\xe9\\u3000\x27" := by decide +kernel

end Cron.Text

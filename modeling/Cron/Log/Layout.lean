/-! # Layout of values

A value is laid out in a width: it is filled up with spaces on one side, or with zeros inside a
number, and never cut.
-/

namespace Cron.Log

/-- The flags that a layout may have. -/
structure Flags where
  /-- Fill up on the right. -/
  left : Bool
  /-- Write a plus sign before a number that has no minus sign. -/
  plus : Bool
  /-- Write a space there, unless a plus sign is asked for. -/
  space : Bool
  /-- Write the mark of the base before a number, and its decimal point in full. -/
  alternate : Bool
  /-- Fill up with zeros after the sign of a number, unless on the right. -/
  zeros : Bool
  deriving DecidableEq

/-- The character is a flag. -/
def isFlag (c : Char) : Bool :=
  "-+ #0".toList.contains c

namespace Flags

/-- The flags written by characters, in any order and number. -/
def ofChars (cs : List Char) : Flags :=
  ⟨cs.contains '-', cs.contains '+', cs.contains ' ', cs.contains '#', cs.contains '0'⟩

/-- A text in a width. -/
def layText (flags : Flags) (width : Nat) (cs : List Char) : List Char :=
  if flags.left then cs.rightpad width ' ' else cs.leftpad width ' '

/-- The sign of a number. -/
def sign (flags : Flags) (negative : Bool) : List Char :=
  if negative then ['-'] else if flags.plus then ['+'] else if flags.space then [' '] else []

/-- A number in a width, from its sign, the mark of its base and its digits. -/
def layNumber (flags : Flags) (width : Nat) (negative : Bool) (mark digits : List Char) :
    List Char :=
  let front := flags.sign negative ++ mark
  if flags.zeros && !flags.left then front ++ digits.leftpad (width - front.length) '0'
  else flags.layText width (front ++ digits)

example : (ofChars ['0', '+']).layNumber 6 false ['0', 'x'] ['a'] = "+0x00a".toList := by decide

end Flags

end Cron.Log

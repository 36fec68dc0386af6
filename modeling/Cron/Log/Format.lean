import Cron.Log.Datum
import Cron.Log.Record
import Cron.Text.Cut
import Cron.Text.DecimalDigit
import Cron.Text.WordChar

/-! # Line formats

A line format is accepted if it has a *field* somewhere: a directive whose name is made of word
characters and whose conversion is a known letter in any case. That is a glance at one place, so a
format that is accepted may still ask for a datum that records do not have, or for a conversion that
does not suit the datum, or break off, or ask for more than there is room for. Then the record has no
line, and a report is printed in place of it.

Some data are not the record's own: only the moment tells the time, and the process and the place in
the program. What such data are is left open.
-/

namespace Cron.Log

open Text

/-! ## Fields -/

/-- The letters that end a field: those of the conversions in either case, and the characters beyond
ASCII whose other case is such a letter. -/
def endsField (c : Char) : Bool :=
  "diouxefgcrsa%\u0130\u0131\u017f".toList.contains c.toLower

/-- What follows a width at the front of the text: a star, digits of any script, or nothing. -/
def dropWidth : List Char → List Char
  | '*' :: cs => cs
  | cs => cs.dropWhile fun c => (digitValue? c).isSome

/-- What follows a precision at the front of the text: a point and a width, or nothing. -/
def dropPrecision : List Char → List Char
  | '.' :: cs =>
    let rest := dropWidth cs
    if rest.length < cs.length then rest else '.' :: cs
  | cs => cs

/-- The text begins with a field. -/
def startsWithField : List Char → Bool
  | '%' :: '(' :: cs =>
    match cut ')' cs with
    | some (name, rest) =>
      !name.isEmpty && name.all isWordChar &&
        ((dropPrecision (dropWidth (rest.dropWhile isFlag))).head?.any endsField)
    | none => false
  | _ => false

/-- The text has a field somewhere. -/
def hasField : List Char → Bool
  | [] => false
  | c :: cs => startsWithField (c :: cs) || hasField cs

/-! ## Lines -/

/-- What only the moment tells of the records that are made in it. -/
structure Moment where
  /-- The time of a record, written out. -/
  time : Record → String
  /-- What a directive makes of a datum that is neither the record's own nor its time, or of all data
  at once, if it makes anything of it. -/
  others : Record → Directive → Option (List Char)
  /-- The most characters that a line can have. -/
  room : Nat
  /-- The account of what went wrong with a record in a format. -/
  account : String → Record → String

/-- A moment that tells nothing but how much room there is. -/
def Moment.bare (room : Nat) : Moment :=
  ⟨fun _ => "", fun _ _ => none, room, fun _ _ => ""⟩

/-- The names of the data that are neither a record's own nor its time. -/
def otherNames : List String :=
  ["args", "created", "exc_info", "exc_text", "filename", "funcName", "lineno", "module", "msecs",
    "msg", "pathname", "process", "processName", "relativeCreated", "stack_info", "taskName",
    "thread", "threadName"]

/-- The data of a record by name, its time among them. -/
def Record.datum? (m : Moment) (r : Record) (name : List Char) : Option Datum :=
  [("asctime", .text (m.time r)), ("levelname", .text r.levelName), ("levelno", .number r.level),
    ("name", .text r.logger), ("message", .text r.message)].lookup (String.ofList name)

/-- The conversions that suit all data at once. -/
def Conversion.suitsAll : Conversion → Bool
  | plain | quoted | quotedInAscii => true
  | _ => false

/-- What a directive writes, if there is a datum of its name and the conversion suits it. -/
def Directive.write (m : Moment) (r : Record) (d : Directive) : Option (List Char) :=
  match d.name with
  | none => if d.conversion.suitsAll then m.others r d else none
  | some name =>
    match r.datum? m name with
    | some datum => d.conversion.write d.flags d.width d.precision datum
    | none => if otherNames.contains (String.ofList name) then m.others r d else none

/-- What a piece writes. -/
def Piece.write (m : Moment) (r : Record) : Piece → Option (List Char)
  | char c => some [c]
  | directive d => d.write m r

/-- The directive that a piece is, if it is one. -/
def Piece.directive? : Piece → Option Directive
  | char _ => none
  | directive d => some d

/-- All directives but the first have a name: with one datum or all data used up, there is nothing
left for a directive without. -/
def namesSuffice (pieces : List Piece) : Bool :=
  (pieces.filterMap Piece.directive?).tail.all fun d => d.name.isSome

/-- The line of a record, if the format can be followed and there is room for it. -/
def Record.line? (m : Moment) (format : String) (r : Record) : Option String := do
  let pieces ← readPieces format.toList
  let written ← pieces.mapM (Piece.write m r)
  let line := written.flatten
  if namesSuffice pieces ∧ line.length ≤ m.room then some (String.ofList line) else none

/-- What is printed for a record: its line, or a report where it has none. -/
def Moment.printed (m : Moment) (format : String) (r : Record) : String :=
  match r.line? m format with
  | some line => line ++ "\n"
  | none => "--- Logging error ---\n" ++ m.account format r

namespace Moment

variable {m : Moment} {format line : String} {r : Record}

theorem printed_of_some (h : r.line? m format = some line) : m.printed format r = line ++ "\n" := by
  rw [printed, h]

theorem printed_of_none (h : r.line? m format = none) :
    m.printed format r = "--- Logging error ---\n" ++ m.account format r := by
  rw [printed, h]

end Moment

example : (Record.mk "Search" "found").line? (.bare 80)
    "%(levelname)-6s|%(levelno)#04x %(message).3s" = some "DEBUG |0x0a fou" := by decide +kernel
example : (Record.mk "Search" "found").line? (.bare 80) "%(name)d" = none := by decide +kernel

end Cron.Log

import Cron.Log.Layout

/-! # Directives

A line format is made of characters that stand for themselves and of *directives*. A directive is a
percent sign, then in this order, all but the last optional: the name of a datum in parentheses,
flags, a width, a point and a precision, a size letter without meaning, and the letter of a
conversion. Without a name it is about all data at once. Two percent signs stand for one. A format is
read as a whole or not at all.

Main statements: `readPieces_append`, by which characters before the first percent sign stand for
themselves, and `readPieces_percent`.
-/

namespace Cron.Log

/-- What a directive does with its datum. -/
inductive Conversion where
  /-- Write it as it is. -/
  | plain
  /-- Write it quoted, hidden characters escaped. -/
  | quoted
  /-- Write it quoted, characters beyond ASCII escaped too. -/
  | quotedInAscii
  /-- Write the character that it is, or whose code point it is. -/
  | character
  | decimal
  | octal
  | hexadecimal (capital : Bool)
  | fixedPoint
  | scientific (capital : Bool)
  | general (capital : Bool)
  deriving DecidableEq

/-- The letters of the conversions. -/
def conversions : List (Char × Conversion) :=
  [('s', .plain), ('r', .quoted), ('a', .quotedInAscii), ('c', .character), ('d', .decimal),
    ('i', .decimal), ('u', .decimal), ('o', .octal), ('x', .hexadecimal false),
    ('X', .hexadecimal true), ('f', .fixedPoint), ('F', .fixedPoint), ('e', .scientific false),
    ('E', .scientific true), ('g', .general false), ('G', .general true)]

/-- One directive. -/
structure Directive where
  /-- The name of the datum, where there is one. -/
  name : Option (List Char)
  flags : Flags
  width : Nat
  precision : Option Nat
  conversion : Conversion
  deriving DecidableEq

/-- A piece of a line format. -/
inductive Piece where
  | char (c : Char)
  | directive (d : Directive)
  deriving DecidableEq

/-! ## Reading -/

/-- The text before the parenthesis that closes the outermost of `depth + 1` open ones, and the text
after it. -/
def closeName (depth : Nat) : List Char → Option (List Char × List Char)
  | [] => none
  | c :: cs =>
    if c = ')' ∧ depth = 0 then some ([], cs)
    else
      let depth := if c = '(' then depth + 1 else if c = ')' then depth - 1 else depth
      (closeName depth cs).map fun (name, rest) => (c :: name, rest)

/-- The number written by the digits at the front, zero if there are none. -/
def leadingNumber (cs : List Char) : Nat :=
  Nat.ofDigitChars 10 (cs.takeWhile Char.isDigit) 0

/-- The precision at the front, and the text after it; a bare point means zero. -/
def readPrecision : List Char → Option Nat × List Char
  | '.' :: cs => (some (leadingNumber cs), cs.dropWhile Char.isDigit)
  | cs => (none, cs)

/-- The text without the size letter at its front. -/
def dropSize : List Char → List Char
  | 'h' :: cs | 'l' :: cs | 'L' :: cs => cs
  | cs => cs

/-- The largest width. -/
def maxWidth : Nat := Nat.pow 2 63 - 1

/-- The largest precision. -/
def maxPrecision : Nat := Nat.pow 2 31 - 1

/-- The directive that has the given name and goes on with the text, and the text after it. -/
def readDirective (name : Option (List Char)) (cs : List Char) :
    Option (Directive × List Char) :=
  let afterFlags := cs.dropWhile isFlag
  let width := leadingNumber afterFlags
  let (precision, afterPrecision) := readPrecision (afterFlags.dropWhile Char.isDigit)
  match dropSize afterPrecision with
  | [] => none
  | letter :: rest =>
    match conversions.lookup letter with
    | none => none
    | some conversion =>
      if width ≤ maxWidth ∧ precision.all (· ≤ maxPrecision) then
        some (⟨name, .ofChars (cs.takeWhile isFlag), width, precision, conversion⟩, rest)
      else none

/-- The piece whose percent sign stands before the text, and the text after it. -/
def readPiece : List Char → Option (Piece × List Char)
  | '%' :: cs => some (.char '%', cs)
  | '(' :: cs => do
    let (name, body) ← closeName 0 cs
    let (d, rest) ← readDirective (some name) body
    some (.directive d, rest)
  | cs => do
    let (d, rest) ← readDirective none cs
    some (.directive d, rest)

/-- Nothing but the closing parenthesis is lost. -/
theorem eq_of_closeName {depth : Nat} {cs name rest : List Char}
    (h : closeName depth cs = some (name, rest)) : cs = name ++ ')' :: rest := by
  induction cs generalizing depth name with
  | nil => simp [closeName] at h
  | cons c cs ih =>
    unfold closeName at h
    split at h
    · next hc =>
      cases h
      rw [hc.1, List.nil_append]
    · obtain ⟨⟨name, rest⟩, hcs, heq⟩ := Option.map_eq_some_iff.1 h
      cases heq
      rw [ih hcs, List.cons_append]

theorem length_readPrecision_le (cs : List Char) : (readPrecision cs).2.length ≤ cs.length := by
  unfold readPrecision
  split
  · exact Nat.le_succ_of_le (List.dropWhile_sublist _).length_le
  · exact Nat.le_refl _

theorem length_dropSize_le (cs : List Char) : (dropSize cs).length ≤ cs.length := by
  unfold dropSize
  split <;> simp

/-- A directive goes on for one character at least. -/
theorem length_of_readDirective {name : Option (List Char)} {cs rest : List Char} {d : Directive}
    (h : readDirective name cs = some (d, rest)) : rest.length < cs.length := by
  unfold readDirective at h
  dsimp only at h
  split at h
  · contradiction
  · next letter rest' hrest =>
    split at h
    · contradiction
    · split at h
      · cases h
        have hflags : (cs.dropWhile isFlag).length ≤ cs.length :=
          (List.dropWhile_sublist _).length_le
        have hwidth : ((cs.dropWhile isFlag).dropWhile Char.isDigit).length ≤
            (cs.dropWhile isFlag).length := (List.dropWhile_sublist _).length_le
        have hprecision := length_readPrecision_le ((cs.dropWhile isFlag).dropWhile Char.isDigit)
        have hsize := length_dropSize_le
          (readPrecision ((cs.dropWhile isFlag).dropWhile Char.isDigit)).2
        rw [hrest, List.length_cons] at hsize
        omega
      · contradiction

/-- A piece takes at least one character after its percent sign. -/
theorem length_of_readPiece {cs rest : List Char} {piece : Piece}
    (h : readPiece cs = some (piece, rest)) : rest.length < cs.length := by
  unfold readPiece at h
  split at h
  · cases h
    exact Nat.lt_succ_self _
  · obtain ⟨⟨name, body⟩, hname, h⟩ := Option.bind_eq_some_iff.1 h
    obtain ⟨⟨d, rest⟩, hd, h⟩ := Option.bind_eq_some_iff.1 h
    cases h
    have hbody := length_of_readDirective hd
    rw [eq_of_closeName hname]
    simp
    omega
  · obtain ⟨⟨d, rest⟩, hd, h⟩ := Option.bind_eq_some_iff.1 h
    cases h
    exact length_of_readDirective hd

/-- The pieces of a line format. -/
def readPieces : List Char → Option (List Piece)
  | [] => some []
  | c :: cs =>
    if c = '%' then
      match h : readPiece cs with
      | some (piece, rest) =>
        have := length_of_readPiece h
        (readPieces rest).map (piece :: ·)
      | none => none
    else (readPieces cs).map (.char c :: ·)
termination_by cs => cs.length

theorem readPieces_nil : readPieces [] = some [] := by
  rw [readPieces]

theorem readPieces_cons {c : Char} (h : c ≠ '%') (cs : List Char) :
    readPieces (c :: cs) = (readPieces cs).map (.char c :: ·) := by
  rw [readPieces, if_neg h]

theorem readPieces_percent {cs rest : List Char} {piece : Piece}
    (h : readPiece cs = some (piece, rest)) :
    readPieces ('%' :: cs) = (readPieces rest).map (piece :: ·) := by
  rw [readPieces, if_pos rfl]
  split
  · next heq =>
    rw [h] at heq
    cases heq
    rfl
  · next heq => simp [h] at heq

/-- Characters before the first percent sign stand for themselves. -/
theorem readPieces_append {cs : List Char} (h : '%' ∉ cs) (ds : List Char) :
    readPieces (cs ++ ds) = (readPieces ds).map (cs.map .char ++ ·) := by
  induction cs with
  | nil => simp
  | cons c cs ih =>
    obtain ⟨hc, hcs⟩ := not_or.1 (mt List.mem_cons.2 h)
    rw [List.cons_append, readPieces_cons (Ne.symm hc), ih hcs, Option.map_map]
    rfl

end Cron.Log

/-! # Letter case of names

Names written in ASCII letters are compared without regard to case. Only the characters whose other
case is ASCII can take part in such a comparison, so these maps change those and keep the rest: a
character left alone is in no name.
-/

namespace Cron.Text

/-- The Kelvin sign, the one character beyond ASCII whose lower case is an ASCII letter. -/
def kelvinSign : Char := '\u212a'

/-- The lower case of a character, where that is an ASCII letter. -/
def toLower (c : Char) : Char :=
  if c = kelvinSign then 'k' else c.toLower

/-- The characters beyond ASCII whose upper case is written in ASCII letters: the sharp s, the
dotless i, the long s and the Latin ligatures. -/
def asciiCapitals : List (Char × List Char) :=
  [('\u00df', ['S', 'S']), ('\u0131', ['I']), ('\u017f', ['S']), ('\ufb00', ['F', 'F']),
    ('\ufb01', ['F', 'I']), ('\ufb02', ['F', 'L']), ('\ufb03', ['F', 'F', 'I']),
    ('\ufb04', ['F', 'F', 'L']), ('\ufb05', ['S', 'T']), ('\ufb06', ['S', 'T'])]

/-- The upper case of a character, where that is written in ASCII letters. -/
def toUpper (c : Char) : List Char :=
  (asciiCapitals.lookup c).getD [c.toUpper]

/-- The text in lower case, as far as names are concerned. -/
def lowerCase (cs : List Char) : List Char :=
  cs.map toLower

/-- The text in upper case, as far as names are concerned. -/
def upperCase (cs : List Char) : List Char :=
  cs.flatMap toUpper

end Cron.Text

/-
# `BootLink.Text.Capital` — capital letters, as far as ASCII names need them

`capitals` puts a text into capital letters exactly where the capitals are ASCII: the ASCII letters
themselves, and the few letters of Unicode whose capital form is made of ASCII letters. No other
letter can take part in an ASCII name, so the rest is left alone.
-/

namespace BootLink.Text

/-- The letters beyond ASCII whose capital form is ASCII. -/
def foreignCapitals : List (Char × String) :=
  [('\u00df', "SS"), ('\u0131', "I"), ('\u017f', "S"), ('\ufb00', "FF"), ('\ufb01', "FI"),
    ('\ufb02', "FL"), ('\ufb03', "FFI"), ('\ufb04', "FFL"), ('\ufb05', "ST"), ('\ufb06', "ST")]

/-- The capital form of one letter. -/
def capital (c : Char) : List Char :=
  match foreignCapitals.lookup c with
  | some s => s.toList
  | none => [c.toUpper]

/-- A text in capital letters. -/
def capitals (s : String) : String := String.ofList (s.toList.flatMap capital)

end BootLink.Text

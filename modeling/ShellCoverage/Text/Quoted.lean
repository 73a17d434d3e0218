import ShellCoverage.Text.CodePoint

/-!
# Quoted text

`Text.quoted` shows a text between quotes so that every code point can be read off: printable ones
stand for themselves, the others are written as escapes. Single quotes are used unless the text has
a single quote and no double quote. `Text.quotedList` shows a list of texts in brackets.
-/

namespace ShellCoverage.Text

/-- The quote that `quoted` puts around a text. -/
def quoteMark (t : Text) : CodePoint :=
  if t.elem (CodePoint.ofChar '\'') && !t.elem (CodePoint.ofChar '"') then CodePoint.ofChar '"'
  else CodePoint.ofChar '\''

/-- How one code point is written between quotes. -/
def quotedPoint (mark c : CodePoint) : Text :=
  if c = mark || c = CodePoint.ofChar '\\' then [CodePoint.ofChar '\\', c]
  else if c = 10 then "\\n"
  else if c = 13 then "\\r"
  else if c = 9 then "\\t"
  else if c.isPrintable then [c]
  else if c.val < 0x100 then ("\\x" : Text) ++ hex 2 c.val
  else if c.val < 0x10000 then ("\\u" : Text) ++ hex 4 c.val
  else ("\\U" : Text) ++ hex 8 c.val

/-- A text between quotes, with escapes for what cannot be printed. -/
def quoted (t : Text) : Text :=
  let mark := quoteMark t
  [mark] ++ t.flatMap (quotedPoint mark) ++ [mark]

/-- Quoted texts with commas between them, in brackets. -/
def quotedList (ts : List Text) : Text := ("[" : Text) ++ join ", " (ts.map quoted) ++ "]"

end ShellCoverage.Text

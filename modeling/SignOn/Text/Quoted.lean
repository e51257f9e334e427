import SignOn.Text.Printable

/-!
# Quoted text

A text between quotes, for messages: apostrophes, unless the text holds one and no quotation
mark.  What is not printable is written as an escape, so that a quoted text is always printable.
-/

namespace SignOn.Text

def escapeHex (c : CodePoint) : Text :=
  if c.val ≤ 0xFF then "\\x" ++ hex 2 c.val
  else if c.val ≤ 0xFFFF then "\\u" ++ hex 4 c.val
  else "\\U" ++ hex 8 c.val

def quotedPoint (quote : CodePoint) (c : CodePoint) : Text :=
  if c = quote || c = '\\' then ['\\', c]
  else if c = '\t' then "\\t"
  else if c = '\n' then "\\n"
  else if c = '\r' then "\\r"
  else if c.isPrintable then [c]
  else escapeHex c

def quoteFor (t : Text) : CodePoint :=
  if t.contains (CodePoint.ofChar '\'') && !t.contains (CodePoint.ofChar '"') then '"' else '\''

def quoted (t : Text) : Text :=
  let quote := quoteFor t
  quote :: t.flatMap (quotedPoint quote) ++ [quote]

end SignOn.Text

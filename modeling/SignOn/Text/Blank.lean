import SignOn.Text.Split

/-!
# Blanks

Two classes of blanks.  `isWhiteSpace` is the property of that name: what may surround a number.
`isBlank` adds the four information separators: what separates words.
-/

namespace SignOn

namespace CodePoint

def isWhiteSpace (c : CodePoint) : Bool :=
  c.between 0x09 0x0D || c.val == 0x20 || c.val == 0x85 || c.val == 0xA0 || c.val == 0x1680 ||
    c.between 0x2000 0x200A || c.val == 0x2028 || c.val == 0x2029 || c.val == 0x202F ||
    c.val == 0x205F || c.val == 0x3000

def isBlank (c : CodePoint) : Bool := c.isWhiteSpace || c.between 0x1C 0x1F

def isJsonBlank (c : CodePoint) : Bool :=
  c.val == 0x20 || c.val == 0x09 || c.val == 0x0A || c.val == 0x0D

end CodePoint

namespace Text

def trimmed (t : Text) : Text := Split.trim CodePoint.isWhiteSpace t

end Text

end SignOn

import ChainAtlas.Text.Ranges

/-!
# Blank characters

The characters that count as white space around a number: the Unicode white space together with the
four information separators U+001C to U+001F.
-/

namespace ChainAtlas
namespace Text

/-- The runs of blank code points. -/
def blankRuns : Ranges :=
  [(0x9, 0xd), (0x1c, 0x20), (0x85, 0x85), (0xa0, 0xa0), (0x1680, 0x1680), (0x2000, 0x200a),
   (0x2028, 0x2029), (0x202f, 0x202f), (0x205f, 0x205f), (0x3000, 0x3000)]

/-- Whether a character is white space. -/
def isBlank (c : Char) : Bool := blankRuns.contains c.toNat

/-- A text without its blank beginning and its blank end. -/
def trimBlanks (text : List Char) : List Char :=
  ((text.dropWhile isBlank).reverse.dropWhile isBlank).reverse

end Text
end ChainAtlas

import MatchCover.Text.CodePoints

/-!
# Blank characters

The characters with the property White_Space, and cutting them off either end of a text.
-/

namespace MatchCover.Text

def blankBounds : List Nat :=
  [0x9, 0xE, 0x20, 0x21, 0x85, 0x86, 0xA0, 0xA1, 0x1680, 0x1681, 0x2000, 0x200B, 0x2028, 0x202A,
   0x202F, 0x2030, 0x205F, 0x2060, 0x3000, 0x3001]

def isBlank (c : Char) : Bool := inside blankBounds c.toNat

def dropTrailingBlanks (s : List Char) : List Char := (s.reverse.dropWhile isBlank).reverse

end MatchCover.Text

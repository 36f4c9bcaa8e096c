/-!
# Blank characters

The characters with the Unicode property White_Space, and a text without the blanks at its ends.
-/

namespace CardEffects.Text

/-- The ranges of code points with the property White_Space, ends included. -/
def blankRanges : List (Nat × Nat) :=
  [(0x09, 0x0D), (0x20, 0x20), (0x85, 0x85), (0xA0, 0xA0), (0x1680, 0x1680), (0x2000, 0x200A),
    (0x2028, 0x2029), (0x202F, 0x202F), (0x205F, 0x205F), (0x3000, 0x3000)]

def isBlank (c : Char) : Bool :=
  blankRanges.any fun range => range.1 ≤ c.toNat && c.toNat ≤ range.2

def trimmed (cs : List Char) : List Char :=
  ((cs.dropWhile isBlank).reverse.dropWhile isBlank).reverse

def sameIgnoringCase (cs ds : List Char) : Bool :=
  cs.map Char.toLower == ds.map Char.toLower

end CardEffects.Text

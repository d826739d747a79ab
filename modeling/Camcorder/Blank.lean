/-!
# White space

The characters that count as white space, as the Unicode property of that name lists them.
-/

namespace Camcorder

/-- The ranges of white space, by their first and last code point. -/
def blankRanges : List (Nat × Nat) :=
  [(0x09, 0x0D), (0x20, 0x20), (0x85, 0x85), (0xA0, 0xA0), (0x1680, 0x1680), (0x2000, 0x200A), (0x2028, 0x2029),
    (0x202F, 0x202F), (0x205F, 0x205F), (0x3000, 0x3000)]

/-- Whether a character is white space. -/
def isBlank (c : Char) : Bool := blankRanges.any fun (first, last) => first ≤ c.toNat && c.toNat ≤ last

/-- What follows the white space at the front. -/
def trimStart (cs : List Char) : List Char := cs.dropWhile isBlank

end Camcorder

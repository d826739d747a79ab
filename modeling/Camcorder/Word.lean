/-!
# Machine words

Sizes, counters and time stamps are words of 64 bits, dimensions and rates words of 32 bits. Sums and products of
them are counted exactly first; one that does not fit its word is `none`.
-/

namespace Camcorder

/-- The number of values of a word of 64 bits. -/
def wordLimit : Nat := 0x10000000000000000

/-- The number of values of a word of 32 bits. -/
def halfWordLimit : Nat := 0x100000000

/-- The number of values of a signed word of 64 bits that are not negative. -/
def signedWordLimit : Nat := 0x8000000000000000

/-- `n` as a number of 64 bits, or `none` if it does not fit. -/
def word? (n : Nat) : Option Nat :=
  if n < wordLimit then some n else none

/-- `n` as a number of 32 bits, or `none` if it does not fit. -/
def halfWord? (n : Nat) : Option Nat :=
  if n < halfWordLimit then some n else none

/-- The sum of numbers. -/
def total (ns : List Nat) : Nat := ns.foldl (· + ·) 0

end Camcorder

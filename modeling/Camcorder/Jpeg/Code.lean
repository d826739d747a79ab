import Camcorder.Bytes

/-!
# Huffman codes of a JPEG image

A `Code` is given by how many code words it has of each length, and by its symbols in the order of the words. The
words of one length follow each other, and the first word of a length is the successor of the last word before,
extended by zeros. So a word is recognised by comparing it with the first one of its length.
-/

namespace Camcorder.Jpeg

/-- A code: the number of words of length 1, 2, …, and the symbols of the words in order. -/
structure Code where
  counts : List Nat
  symbols : Array UInt8
deriving DecidableEq, Repr

/-- The bits of a byte, the most significant first. -/
def bitsOf (b : UInt8) : List Bool :=
  (List.range 8).map fun i => b.toNat.testBit (7 - i)

namespace Code

/-- Reads the word that begins with `word` and goes on in `bits`; `first` is the first word of the next length and
`index` the number of shorter words. -/
def find? (symbols : Array UInt8) :
    List Nat → List Bool → (word first index : Nat) → Option (UInt8 × List Bool)
  | count :: counts, bit :: bits, word, first, index =>
    let word := 2 * word + bit.toNat
    if word < first + count then (symbols[index + (word - first)]?).map (·, bits)
    else find? symbols counts bits word (2 * (first + count)) (index + count)
  | _, _, _, _, _ => none

/-- The symbol whose word is at the front of `bits`, and the bits after it. -/
def next? (c : Code) (bits : List Bool) : Option (UInt8 × List Bool) :=
  find? c.symbols c.counts bits 0 0 0

end Code

/-- The number written in the first `n` bits, after the bits that make `acc`. -/
def takeNat? : (n acc : Nat) → List Bool → Option (Nat × List Bool)
  | 0, acc, bits => some (acc, bits)
  | _ + 1, _, [] => none
  | n + 1, acc, bit :: bits => takeNat? n (2 * acc + bit.toNat) bits

/-- The signed number written in the first `n` bits: those with a leading zero are the negative ones. -/
def takeSigned? (n : Nat) (bits : List Bool) : Option (Int × List Bool) :=
  (takeNat? n 0 bits).map fun (v, rest) =>
    (if n ≠ 0 ∧ v < Nat.pow 2 (n - 1) then (v : Int) - (Nat.pow 2 n - 1 : Nat) else (v : Int), rest)

end Camcorder.Jpeg

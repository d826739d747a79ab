import Camcorder.Jpeg.Code

/-!
# Blocks of a JPEG image

A block of 8 × 8 samples is stored by its 64 cosine coefficients, from low frequencies to high ones. The first
one, which sets the mean of the block, is stored as the difference to that of the block before.
-/

namespace Camcorder.Jpeg

/-- Where each coefficient of the stored order stands in the rows of the block. -/
def zigzag : Array Nat :=
  #[0, 1, 8, 16, 9, 2, 3, 10, 17, 24, 32, 25, 18, 11, 4, 5, 12, 19, 26, 33, 40, 48, 41, 34, 27, 20, 13, 6, 7, 14,
    21, 28, 35, 42, 49, 56, 57, 50, 43, 36, 29, 22, 15, 23, 30, 37, 44, 51, 58, 59, 52, 45, 38, 31, 39, 46, 53, 60,
    61, 54, 47, 55, 62, 63]

/-- The coefficients of a block, row by row. -/
abbrev Block := Array Int

/-- Reads the coefficients from number `k` on. A symbol says how many zeros come first and how many bits the next
coefficient has; no bits at all end the block, unless they follow fifteen zeros. -/
def readRuns? (code : Code) (quantizer : Array Nat) (k : Nat) (block : Block) (bits : List Bool) :
    Option (Block × List Bool) :=
  if k < 64 then do
    let (symbol, bits) ← code.next? bits
    let zeros := symbol.toNat / 16
    let size := symbol.toNat % 16
    if size = 0 then
      if zeros = 15 then readRuns? code quantizer (k + 16) block bits else some (block, bits)
    else do
      let (v, bits) ← takeSigned? size bits
      let place ← zigzag[k + zeros]?
      readRuns? code quantizer (k + zeros + 1) (block.setIfInBounds place (v * quantizer.getD (k + zeros) 1)) bits
  else some (block, bits)
termination_by 64 - k

/-- Reads a block. The mean is `previous` plus the difference stored. Answers the block, the mean as the next
block will need it, and the bits after it. -/
def readBlock? (dc ac : Code) (quantizer : Array Nat) (previous : Int) (bits : List Bool) :
    Option (Block × Int × List Bool) := do
  let (size, bits) ← dc.next? bits
  let (difference, bits) ← takeSigned? size.toNat bits
  let mean := previous + difference
  let (block, bits) ← readRuns? ac quantizer 1 ((Array.replicate 64 0).setIfInBounds 0 (mean * quantizer.getD 0 1)) bits
  return (block, mean, bits)

/-! ## From coefficients to samples -/

/-- The cosines of the multiples of a sixteenth of half a turn, up to a quarter of a turn. -/
def quarterCosines : Array Float :=
  #[1.0, 0.9807852804032304, 0.9238795325112867, 0.8314696123025452, 0.7071067811865476, 0.5555702330196022,
    0.3826834323650898, 0.19509032201612828, 0.0]

/-- The cosine of `k` sixteenths of half a turn. -/
def cosine (k : Nat) : Float :=
  let k := k % 32
  if k ≤ 8 then quarterCosines.getD k 0.0
  else if k ≤ 16 then -quarterCosines.getD (16 - k) 0.0
  else if k ≤ 24 then -quarterCosines.getD (k - 16) 0.0
  else quarterCosines.getD (32 - k) 0.0

/-- The values at place `x` of the cosines of frequency `u`, at `8 * x + u`, scaled to unit length. -/
def basis : Array Float := Array.ofFn (n := 64) fun i =>
  let u := i.val % 8
  (if u == 0 then 0.35355339059327373 else 0.5) * cosine ((2 * (i.val / 8) + 1) * u)

/-- The sum of the eight cosines with coefficients `f 0`, …, `f 7` at place `x`. -/
def synthesize (x : Nat) (f : Nat → Float) : Float :=
  (List.range 8).foldl (fun sum u => sum + f u * basis.getD (8 * x + u) 0.0) 0.0

/-- A sample, shifted from around zero to around 128. -/
def levelByte (x : Float) : UInt8 := (x + 128.5).toUInt8

/-- The samples of a block, row by row. A block without frequencies is flat. -/
def Block.samples (b : Block) : Bytes :=
  if b.toList.tail.all (· == 0) then
    Bytes.fill 64 (levelByte (Float.ofInt (b.getD 0 0) / 8.0))
  else
    let rows := Array.ofFn (n := 64) fun i =>
      synthesize (i.val % 8) fun u => Float.ofInt (b.getD (i.val / 8 * 8 + u) 0)
    Array.ofFn (n := 64) fun i => levelByte <|
      synthesize (i.val / 8) fun v => rows.getD (8 * v + i.val % 8) 0.0

end Camcorder.Jpeg

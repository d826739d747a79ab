import Mathlib
import Camcorder.Proofs.Picture.Conversions

/-!
# Colours stay within their range

A picture of red, green and blue samples is converted in fixed point, in signed words of 32 bits, and the results are
cut to bytes. None of the sums and products leaves its word, and no result is ever cut: luma samples lie between 16 and
235, chroma samples between 16 and 240 (`PlaneMap.colours_in_place`).
-/

namespace Camcorder

namespace PlaneMap

/-! ## Step by step -/

/-- `n` as a signed number of 32 bits, or `none` if it does not fit. -/
def signed32? (n : Int) : Option Int := if -0x80000000 ≤ n ∧ n < 0x80000000 then some n else none

/-- The luma of a colour, with every sum and product in a word of its own. -/
def luma? (r g b : Int) : Option Int := do
  let red ← signed32? (66 * r)
  let green ← signed32? (129 * g)
  let sum ← signed32? (red + green)
  let blue ← signed32? (25 * b)
  let sum ← signed32? (sum + blue)
  let sum ← signed32? (sum + 128)
  signed32? ((sum >>> (8 : Nat)) + 16)

/-- The blue difference in the same way. -/
def blueDifference? (r g b : Int) : Option Int := do
  let red ← signed32? (-38 * r)
  let green ← signed32? (74 * g)
  let sum ← signed32? (red - green)
  let blue ← signed32? (112 * b)
  let sum ← signed32? (sum + blue)
  let sum ← signed32? (sum + 128)
  signed32? ((sum >>> (8 : Nat)) + 128)

/-- The red difference in the same way. -/
def redDifference? (r g b : Int) : Option Int := do
  let red ← signed32? (112 * r)
  let green ← signed32? (94 * g)
  let sum ← signed32? (red - green)
  let blue ← signed32? (18 * b)
  let sum ← signed32? (sum - blue)
  let sum ← signed32? (sum + 128)
  signed32? ((sum >>> (8 : Nat)) + 128)

theorem signed32?_eq {n : Int} (low : -0x80000000 ≤ n) (high : n < 0x80000000) : signed32? n = some n :=
  if_pos ⟨low, high⟩

/-- Shifting to the right is division, rounded down. -/
theorem shiftRight_eight (n : Int) : n >>> (8 : Nat) = n / 256 := Int.shiftRight_eq_div_pow n 8

/-- The numbers that a byte can be. -/
def IsByte (n : Int) : Prop := 0 ≤ n ∧ n ≤ 255

theorem isByte_toNat (v : UInt8) : IsByte v.toNat := by
  have bound := v.toNat_lt
  exact ⟨by omega, by omega⟩

section

variable {r g b : Int} (red : IsByte r) (green : IsByte g) (blue : IsByte b)

include red green blue

theorem luma?_eq : luma? r g b = some (luma r g b) := by
  unfold IsByte at red green blue
  simp (disch := omega) only [luma?, luma, Option.bind_eq_bind, shiftRight_eight, signed32?_eq, Option.bind_some]

theorem blueDifference?_eq : blueDifference? r g b = some (blueDifference r g b) := by
  unfold IsByte at red green blue
  simp (disch := omega) only [blueDifference?, blueDifference, Option.bind_eq_bind, shiftRight_eight, signed32?_eq,
    Option.bind_some]

theorem redDifference?_eq : redDifference? r g b = some (redDifference r g b) := by
  unfold IsByte at red green blue
  simp (disch := omega) only [redDifference?, redDifference, Option.bind_eq_bind, shiftRight_eight, signed32?_eq,
    Option.bind_some]

/-! ## Ranges -/

/-- Brightness lies in the range of the standard. -/
theorem luma_range : 16 ≤ luma r g b ∧ luma r g b ≤ 235 := by
  unfold IsByte at red green blue
  unfold luma
  omega

theorem blueDifference_range : 16 ≤ blueDifference r g b ∧ blueDifference r g b ≤ 240 := by
  unfold IsByte at red green blue
  unfold blueDifference
  omega

theorem redDifference_range : 16 ≤ redDifference r g b ∧ redDifference r g b ≤ 240 := by
  unfold IsByte at red green blue
  unfold redDifference
  omega

end

/-- A number that is a byte already is not cut. -/
theorem toNat_clampByte {n : Int} (low : 0 ≤ n) (high : n ≤ 255) : ((clampByte n).toNat : Int) = n := by
  have whole : (min (max n 0) 255).toNat = n.toNat := by rw [max_eq_left low, min_eq_left high]
  have small : n.toNat < 256 := by omega
  rw [clampByte, whole, UInt8.toNat_ofNat_of_lt' small]
  omega

/-- The byte `v` is the number `n`, which its steps lead to and which lies between `low` and `high`. -/
structure Exact (steps : Option Int) (n low high : Int) (v : UInt8) : Prop where
  steps : steps = some n
  range : low ≤ n ∧ n ≤ high
  value : (v.toNat : Int) = n

/-- A number that is computed and lies in the range of bytes is written as it is. -/
theorem exact_clampByte {steps : Option Int} {n low high : Int} (computed : steps = some n) (range : low ≤ n ∧ n ≤ high)
    (bytes : 0 ≤ low ∧ high ≤ 255) : Exact steps n low high (clampByte n) :=
  ⟨computed, range, toNat_clampByte (by omega) (by omega)⟩

section

variable (r g b : UInt8)

theorem exact_luma :
    Exact (luma? r.toNat g.toNat b.toNat) (luma r.toNat g.toNat b.toNat) 16 235
      (clampByte (luma r.toNat g.toNat b.toNat)) := by
  have red := isByte_toNat r
  have green := isByte_toNat g
  have blue := isByte_toNat b
  exact exact_clampByte (luma?_eq red green blue) (luma_range red green blue) (by decide)

theorem exact_blueDifference :
    Exact (blueDifference? r.toNat g.toNat b.toNat) (blueDifference r.toNat g.toNat b.toNat) 16 240
      (clampByte (blueDifference r.toNat g.toNat b.toNat)) := by
  have red := isByte_toNat r
  have green := isByte_toNat g
  have blue := isByte_toNat b
  exact exact_clampByte (blueDifference?_eq red green blue) (blueDifference_range red green blue) (by decide)

theorem exact_redDifference :
    Exact (redDifference? r.toNat g.toNat b.toNat) (redDifference r.toNat g.toNat b.toNat) 16 240
      (clampByte (redDifference r.toNat g.toNat b.toNat)) := by
  have red := isByte_toNat r
  have green := isByte_toNat g
  have blue := isByte_toNat b
  exact exact_clampByte (redDifference?_eq red green blue) (redDifference_range red green blue) (by decide)

end

/-! ## Pictures -/

/-- The colour of pixel (`x`, `y`). -/
def HasColour (p : PlaneMap) (rgb : Bytes) (x y : Nat) (r g b : UInt8) : Prop :=
  rgb[(y * p.width + x) * 3]? = some r ∧ rgb[(y * p.width + x) * 3 + 1]? = some g ∧
    rgb[(y * p.width + x) * 3 + 2]? = some b

/-- The buffer holds the picture of the colours: the luma of every pixel, the differences of the top left pixel of each
whole block of four, and neutral chroma in what follows. -/
structure Paints (p : PlaneMap) (rgb out : Bytes) : Prop where
  luma : ∀ x y, x < p.width → y < p.height → ∃ r g b v, p.HasColour rgb x y r g b ∧
    out[y * p.width + x]? = some v ∧
    Exact (luma? r.toNat g.toNat b.toNat) (luma r.toNat g.toNat b.toNat) 16 235 v
  chroma : ∀ row col, row < p.height / 2 → col < p.width / 2 → ∃ r g b u v, p.HasColour rgb (2 * col) (2 * row) r g b ∧
    out[p.uIndex (row * (p.width / 2) + col)]? = some u ∧ out[p.vIndex (row * (p.width / 2) + col)]? = some v ∧
    Exact (blueDifference? r.toNat g.toNat b.toNat) (blueDifference r.toNat g.toNat b.toNat) 16 240 u ∧
    Exact (redDifference? r.toNat g.toNat b.toNat) (redDifference r.toNat g.toNat b.toNat) 16 240 v
  tail : ∀ i, p.sampleEnd ≤ i → i < out.size → out[i]? = some 128

variable {p : PlaneMap} {rgb : Bytes}

/-- A brightness that is written is that of a colour in the picture. -/
theorem colourLuma_eq_some {x y : Nat} {v : UInt8} (read : p.colourLuma rgb x y = some v) :
    ∃ r g b : UInt8, p.HasColour rgb x y r g b ∧ v = clampByte (luma r.toNat g.toNat b.toNat) := by
  obtain ⟨c, colour, last⟩ := Option.bind_eq_some_iff.mp read
  obtain ⟨r, g, b, red, green, blue, rfl⟩ := colour?_eq_some colour
  exact ⟨r, g, b, ⟨red, green, blue⟩, (Option.some.inj last).symm⟩

/-- A cell that is written is that of the colour in its corner. -/
theorem colourCell_eq_some {row col : Nat} {u v : UInt8} (read : p.colourCell rgb row col = some (u, v)) :
    ∃ r g b : UInt8, p.HasColour rgb (2 * col) (2 * row) r g b ∧
      u = clampByte (blueDifference r.toNat g.toNat b.toNat) ∧ v = clampByte (redDifference r.toNat g.toNat b.toNat) := by
  obtain ⟨c, colour, last⟩ := Option.bind_eq_some_iff.mp read
  obtain ⟨r, g, b, red, green, blue, rfl⟩ := colour?_eq_some colour
  obtain ⟨first, second⟩ := Prod.mk.inj (Option.some.inj last)
  exact ⟨r, g, b, ⟨red, green, blue⟩, first.symm, second.symm⟩

/-- **Colours in their places.** For every layout and all dimensions, odd ones and zero included, and for every picture
of red, green and blue samples and every buffer: the conversion stays within both exactly when the one has three bytes
for each pixel and the other has room. The buffer then keeps its length and holds the picture of the colours, in which
every sample is what its formula says: no step leaves 32 bits, and cutting to a byte changes nothing. As long as three
bytes for each pixel can be counted in a word, so can all places in the picture. -/
theorem colours_in_place (p : PlaneMap) (rgb out : Bytes) :
    ((p.ofRgb rgb out).isSome = true ↔ 3 * (p.width * p.height) ≤ rgb.size ∧ p.sampleEnd ≤ out.size) ∧
      (∀ out', p.ofRgb rgb out = some out' → out'.size = out.size ∧ p.Paints rgb out') ∧
      (3 * (p.width * p.height) < wordLimit → p.sampleEnd < wordLimit) := by
  have fill : Converter.fill { width := p.width, height := p.height } p.layout (.rgb rgb) out = p.ofRgb rgb out := rfl
  refine ⟨?_, ?_, ?_⟩
  · rw [← fill, Converter.isSome_fill_iff, Nat.mul_comm 3]
    exact Iff.rfl
  · intro out' filled
    obtain ⟨_, size, shows, padded⟩ := ofRgb_shows filled
    refine ⟨size, ⟨?_, ?_, padded⟩⟩
    · intro x y hx hy
      obtain ⟨v, read, here⟩ := shows.luma x y hx hy
      obtain ⟨r, g, b, colour, rfl⟩ := colourLuma_eq_some read
      exact ⟨r, g, b, _, colour, here, exact_luma r g b⟩
    · intro row col hr hc
      obtain ⟨u, v, read, first, second⟩ := shows.chroma row col hr hc
      obtain ⟨r, g, b, colour, rfl, rfl⟩ := colourCell_eq_some read
      exact ⟨r, g, b, _, _, colour, first, second, exact_blueDifference r g b, exact_redDifference r g b⟩
  · intro fits
    have picture : p.sampleEnd ≤ 2 * (p.width * p.height) := Sampling.extent_le_double .semiPlanar420 p
    omega

end PlaneMap

end Camcorder

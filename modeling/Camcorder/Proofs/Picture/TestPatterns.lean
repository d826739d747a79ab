import Mathlib
import Camcorder.Frame.Pattern
import Camcorder.Proofs.Picture.Interleaving

/-!
# Test patterns are recognised

The test patterns are shaped such that each is recognised as the format it is in, whatever the size of the frames and
the number of the frame (`Pattern.classify_pattern`). In the packed pattern every luma sample lies far below every
chroma sample. In the planar one the samples of each pair of neighbours are equal, from the first byte to the last, so
it does not matter where the probe ends.
-/

namespace Camcorder

namespace FrameFormat

variable {data : Bytes} {n : ℕ}

/-- A bound on every other byte is one on their sum. -/
theorem everyOther_le {first bound : ℕ} (bytes : ∀ i < n, (data.getD (2 * i + first) 0).toNat ≤ bound) :
    everyOther data first n ≤ bound * n := by
  have sum := Finset.sum_le_card_nsmul (Finset.range n) _ bound fun i hi => bytes i (Finset.mem_range.mp hi)
  rw [Finset.card_range, smul_eq_mul, mul_comm] at sum
  exact sum

theorem le_everyOther {first bound : ℕ} (bytes : ∀ i < n, bound ≤ (data.getD (2 * i + first) 0).toNat) :
    bound * n ≤ everyOther data first n := by
  have sum := Finset.card_nsmul_le_sum (Finset.range n) _ bound fun i hi => bytes i (Finset.mem_range.mp hi)
  rw [Finset.card_range, smul_eq_mul, mul_comm] at sum
  exact sum

/-- Bytes at even places that are far below the bytes at odd places look packed. -/
theorem looksPacked_of_apart (low high : ℕ) (pos : 0 < n) (probed : min probeLength data.size = 2 * n)
    (apart : low + 5 < high) (even : ∀ i < n, (data.getD (2 * i) 0).toNat ≤ low)
    (odd : ∀ i < n, high ≤ (data.getD (2 * i + 1) 0).toNat) : looksPacked data = true := by
  have below : everyOther data 0 n ≤ low * n := everyOther_le even
  have above : high * n ≤ everyOther data 1 n := le_everyOther odd
  have gap : low * n + 5 * n < high * n := by
    rw [← Nat.add_mul]
    exact Nat.mul_lt_mul_of_pos_right apart pos
  have far : 5 * (n : ℤ) < |(everyOther data 0 n : ℤ) - everyOther data 1 n| := by
    rw [abs_of_nonpos (by omega)]
    omega
  exact (looksPacked_iff pos probed).mpr ⟨far.le, fun slip => far.ne' slip.1⟩

/-- A buffer of pairs of equal bytes does not look packed. -/
theorem looksPacked_of_pairs (pos : 0 < n) (probed : min probeLength data.size = 2 * n)
    (pairs : ∀ i < n, data.getD (2 * i) 0 = data.getD (2 * i + 1) 0) : looksPacked data = false := by
  have same : everyOther data 0 n = everyOther data 1 n :=
    Finset.sum_congr rfl fun i hi => congrArg UInt8.toNat (pairs i (Finset.mem_range.mp hi))
  rw [Bool.eq_false_iff]
  intro packed
  have far := ((looksPacked_iff pos probed).mp packed).1
  rw [same, sub_self, abs_zero] at far
  omega

end FrameFormat

namespace Pattern

variable {n : ℕ} {g : Geometry} {i : ℕ}

theorem luma_le (n x y : ℕ) : (luma n x y).toNat ≤ 79 := by
  unfold luma
  rw [UInt8.toNat_ofNat']
  omega

theorem le_blue (n : ℕ) : 121 ≤ (blue n).toNat := by
  unfold blue
  rw [UInt8.toNat_ofNat']
  omega

theorem le_red (n : ℕ) : 121 ≤ (red n).toNat := by
  unfold red
  rw [UInt8.toNat_ofNat']
  omega

theorem size_packed422 (n : ℕ) (g : Geometry) : (packed422 n g).size = g.pixels * 2 := Array.size_ofFn

theorem size_planar422 (n : ℕ) (g : Geometry) : (planar422 n g).size = g.pixels * 2 := Array.size_ofFn

theorem size_semiPlanar420 (n : ℕ) (g : Geometry) : (semiPlanar420 n g).size = g.pixels * 3 / 2 := Array.size_ofFn

theorem getD_ofFn {size : ℕ} (f : Fin size → UInt8) (within : i < size) :
    (Array.ofFn f).getD i 0 = f ⟨i, within⟩ := by
  rw [Array.getD_eq_getD_getElem?, Array.getElem?_ofFn, dif_pos within]
  rfl

/-- The brightness in a packed pattern is low. -/
theorem packed422_even (within : 2 * i + 1 < g.pixels * 2) : ((packed422 n g).getD (2 * i) 0).toNat ≤ 79 := by
  have even : 2 * i % 2 = 0 := Nat.mul_mod_right 2 i
  unfold packed422
  rw [getD_ofFn _ (by omega)]
  simp only [even, beq_self_eq_true, if_true]
  exact luma_le _ _ _

/-- Its colours are high. -/
theorem packed422_odd (within : 2 * i + 1 < g.pixels * 2) : 121 ≤ ((packed422 n g).getD (2 * i + 1) 0).toNat := by
  have odd : (2 * i + 1) % 2 = 1 := by omega
  unfold packed422
  rw [getD_ofFn _ within]
  dsimp only
  rw [odd, if_neg (by decide)]
  split
  · exact le_blue n
  · exact le_red n

/-- In a frame of even dimensions the rows and the planes begin at even places. -/
theorem planar422_pair (width : g.width % 2 = 0) (height : g.height % 2 = 0) (within : 2 * i + 1 < g.pixels * 2) :
    (planar422 n g).getD (2 * i) 0 = (planar422 n g).getD (2 * i + 1) 0 := by
  obtain ⟨half, row⟩ : ∃ half, g.width = 2 * half := ⟨g.width / 2, by omega⟩
  have chroma : g.width / 2 * g.height % 2 = 0 := by rw [Nat.mul_mod, height, Nat.mul_zero, Nat.zero_mod]
  have pixels : g.pixels % 2 = 0 := by
    unfold Geometry.pixels
    rw [Nat.mul_mod, height, Nat.mul_zero, Nat.zero_mod]
  -- The luma sample depends on the number of the pair only.
  have sample (j : ℕ) : luma n (j % g.width / 2) (j / g.width) = luma n (j / 2 % half) (j / 2 / half) := by
    rw [row, Nat.mod_mul_right_div_self, Nat.div_div_eq_div_mul]
  have pair : 2 * i / 2 = i ∧ (2 * i + 1) / 2 = i := by omega
  have turn (start : ℕ) (even : start % 2 = 0) : 2 * i < start ↔ 2 * i + 1 < start := by omega
  unfold planar422
  rw [getD_ofFn _ (by omega), getD_ofFn _ within]
  dsimp only
  rw [sample, sample, pair.1, pair.2]
  simp only [turn g.pixels pixels, turn (g.pixels + g.width / 2 * g.height) (by omega),
    turn (g.pixels + 2 * (g.width / 2 * g.height)) (by omega)]

/-- **Test patterns are recognised.** For frames of even dimensions, not empty, with a 4:2:2 length that fits a word of
32 bits, each uncompressed pattern is found to be of its own format. -/
theorem classify_pattern (n : ℕ) (width : 2 ≤ g.width) (height : 2 ≤ g.height) (evenWidth : g.width % 2 = 0)
    (evenHeight : g.height % 2 = 0) (fits : 2 * g.width * g.height < halfWordLimit) :
    FrameFormat.classify (packed422 n g) g = .ok (some .packed422) ∧
      FrameFormat.classify (planar422 n g) g = .ok (some .planar422) ∧
      FrameFormat.classify (semiPlanar420 n g) g = .ok (some .semiPlanar420) := by
  have some' : 4 ≤ g.pixels := Nat.mul_le_mul width height
  have few : 2 * g.pixels < halfWordLimit := by rwa [Nat.mul_assoc] at fits
  have limit : g.pixels * 3 < wordLimit := by
    unfold halfWordLimit at few
    unfold wordLimit
    omega
  have len420 : g.len420? = some (g.pixels * 3 / 2) := Geometry.len420?_eq_some_iff.mpr ⟨limit, rfl⟩
  have len422 : g.len422? = some (g.pixels * 2) := Geometry.len422?_eq_some_iff.mpr ⟨by omega, rfl⟩
  have apart : g.pixels * 2 ≠ g.pixels * 3 / 2 := by omega
  -- The bytes that are probed: up to the end of the frame, wherever in the planes that is.
  have probed {data : Bytes} (size : data.size = g.pixels * 2) :
      min FrameFormat.probeLength data.size = 2 * (min FrameFormat.probeLength data.size / 2) := by
    unfold FrameFormat.probeLength
    omega
  have pos {data : Bytes} (size : data.size = g.pixels * 2) : 0 < min FrameFormat.probeLength data.size / 2 := by
    unfold FrameFormat.probeLength
    omega
  refine ⟨?_, ?_, ?_⟩
  · have size := size_packed422 n g
    have packed : FrameFormat.looksPacked (packed422 n g) = true := by
      apply FrameFormat.looksPacked_of_apart 79 121 (pos size) (probed size) (by decide)
      · exact fun i hi => packed422_even (by omega)
      · exact fun i hi => packed422_odd (by omega)
    rw [FrameFormat.classify_eq len420 len422, size, if_neg (by omega), if_neg apart, if_pos rfl, packed, if_pos rfl]
  · have size := size_planar422 n g
    have planar : FrameFormat.looksPacked (planar422 n g) = false := by
      apply FrameFormat.looksPacked_of_pairs (pos size) (probed size)
      exact fun i hi => planar422_pair evenWidth evenHeight (by omega)
    rw [FrameFormat.classify_eq len420 len422, size, if_neg (by omega), if_neg apart, if_pos rfl, planar]
    rfl
  · rw [FrameFormat.classify_eq len420 len422, size_semiPlanar420, if_neg (by omega), if_pos rfl]

/-- The smallest frames there are, with the last number for which the sums are words. -/
theorem classify_pattern_smallest :
    let g : Geometry := { width := 2, height := 2 }
    2 ≤ g.width ∧ 2 ≤ g.height ∧ g.width % 2 = 0 ∧ g.height % 2 = 0 ∧ 2 * g.width * g.height < halfWordLimit ∧
      FrameFormat.classify (packed422 0xFFFFFFFFFFFFFFFB g) g = .ok (some .packed422) ∧
      FrameFormat.classify (planar422 0xFFFFFFFFFFFFFFFB g) g = .ok (some .planar422) ∧
      FrameFormat.classify (semiPlanar420 0xFFFFFFFFFFFFFFFB g) g = .ok (some .semiPlanar420) := by
  intro g
  exact ⟨by decide, by decide, by decide, by decide, by decide,
    classify_pattern 0xFFFFFFFFFFFFFFFB (by decide) (by decide) (by decide) (by decide) (by decide)⟩

end Pattern

end Camcorder

import Mathlib
import Camcorder.Proofs.Double.Arithmetic
import Camcorder.Proofs.Double.Gap
import Camcorder.Proofs.Picture.Recognition

/-!
# Packed and planar frames

A frame of the 4:2:2 length is taken to be packed if the bytes at even places of its first row and those at odd places
are five or more apart on average. The averages are rounded, but that makes a difference in one case only: where they
lie five apart exactly, the frame may be taken to be planar (`FrameFormat.classify_of_len422`).
-/

namespace Camcorder

namespace FrameFormat

/-! ## Bytes in turn -/

/-- The sum of `n` bytes, every other one from `first` on. -/
def everyOther (data : Bytes) (first n : ℕ) : ℕ := ∑ i ∈ Finset.range n, (data.getD (2 * i + first) 0).toNat

theorem getElem?_alternate {α : Type} (l : List α) (i : ℕ) :
    (alternate l).1[i]? = l[2 * i]? ∧ (alternate l).2[i]? = l[2 * i + 1]? := by
  induction l generalizing i with
  | nil => exact ⟨rfl, rfl⟩
  | cons a l ih =>
    unfold alternate
    refine ⟨?_, (ih i).1⟩
    cases i with
    | zero => rfl
    | succ i => exact (ih i).2

theorem length_alternate {α : Type} (l : List α) :
    (alternate l).1.length = (l.length + 1) / 2 ∧ (alternate l).2.length = l.length / 2 := by
  induction l with
  | nil => simp [alternate]
  | cons a l ih =>
    unfold alternate
    simp only [List.length_cons]
    omega

theorem total_eq_sum (l : List ℕ) : total l = ∑ i ∈ Finset.range l.length, l.getD i 0 := by
  have folded : total l = l.sum := List.sum_eq_foldl.symm
  rw [folded]
  induction l with
  | nil => rfl
  | cons a l ih =>
    rw [List.sum_cons, List.length_cons, Finset.sum_range_succ', ih List.sum_eq_foldl.symm, add_comm]
    rfl

/-- A list that holds every other of `n` bytes adds up to their sum. -/
theorem total_everyOther {data : Bytes} {first n : ℕ} {l : List UInt8} (length : l.length = n)
    (bytes : ∀ i < n, l[i]? = data[2 * i + first]?) : total (l.map UInt8.toNat) = everyOther data first n := by
  rw [total_eq_sum, List.length_map, length]
  refine Finset.sum_congr rfl fun i hi => ?_
  rw [List.getD_eq_getElem?_getD, List.getElem?_map, bytes i (Finset.mem_range.1 hi), Array.getD_eq_getD_getElem?]
  cases data[2 * i + first]? <;> rfl

/-- The bytes that are probed, in turn. -/
theorem alternate_probe {data : Bytes} {n : ℕ} (probed : min probeLength data.size = 2 * n) :
    ∃ evens odds, alternate (data.extract 0 probeLength).toList = (evens, odds) ∧ evens.length = n ∧ odds.length = n ∧
      total (evens.map UInt8.toNat) = everyOther data 0 n ∧ total (odds.map UInt8.toNat) = everyOther data 1 n := by
  set l := (data.extract 0 probeLength).toList with l_def
  have length : l.length = 2 * n := by
    rw [l_def, Array.length_toList, Array.size_extract]
    omega
  have bytes {j : ℕ} (hj : j < 2 * n) : l[j]? = data[j]? := by
    rw [l_def, Array.getElem?_toList, Array.getElem?_extract]
    simp only [tsub_zero, zero_add]
    split
    · rfl
    · rw [Array.getElem?_eq_none (by omega)]
  have lengths := length_alternate l
  refine ⟨_, _, rfl, by omega, by omega, total_everyOther (by omega) ?_, total_everyOther (by omega) ?_⟩
  · intro i hi
    rw [(getElem?_alternate l i).1, bytes (by omega), add_zero]
  · intro i hi
    rw [(getElem?_alternate l i).2, bytes (by omega)]

/-! ## Rounded averages -/

open Double

variable {s n : ℕ}

/-- An average of few bytes is zero, or not close to it. -/
theorem average_low (pos : 0 < n) (few : n < 2 ^ 11) : (s / n : ℚ) = 0 ∨ 2 ^ (-11 : ℤ) ≤ (s / n : ℚ) := by
  have pos' : (0 : ℚ) < n := by exact_mod_cast pos
  rcases Nat.eq_zero_or_pos s with rfl | some
  · left
    rw [Nat.cast_zero, zero_div]
  · right
    have one_le : (1 : ℚ) ≤ s := by exact_mod_cast some
    have below : (n : ℚ) ≤ 2 ^ 11 := by exact_mod_cast few.le
    rw [le_div_iff₀ pos']
    norm_num
    linarith

theorem average_high (bytes : s < 2 ^ 8 * n) : (s / n : ℚ) < 2 ^ (8 : ℤ) := by
  have pos : (0 : ℚ) < n := by exact_mod_cast (show 0 < n by omega)
  rw [div_lt_iff₀ pos]
  exact_mod_cast bytes

/-- The average that is computed is the nearest number to that of the bytes. -/
theorem is_average (few : n < 2 ^ 11) {l : List UInt8} (length : l.length = n)
    (sum : total (l.map UInt8.toNat) = s) (bytes : s < 2 ^ 8 * n) : Is (average l) (nearest (s / n)) := by
  have pos : 0 < n := by omega
  have some : l.isEmpty = false := by
    cases l with
    | nil => exact absurd length pos.ne
    | cons => rfl
  have fits : Fits (s / n) := fun nonzero =>
    Fits.of_powers ((average_low pos few).resolve_left nonzero) (average_high bytes) (by norm_num) (by norm_num) nonzero
  unfold average
  rw [some, sum, length]
  exact (is_ofNat (by omega)).div (is_ofNat (by omega)) (by exact_mod_cast pos.ne') fits

/-- The averages are either equal or so far apart that their difference is rounded. -/
theorem gap_fits {s' : ℕ} (few : n < 2 ^ 11) (bytes : s < 2 ^ 8 * n) (bytes' : s' < 2 ^ 8 * n) :
    Fits (nearest (s / n) - nearest (s' / n)) := by
  have pos : 0 < n := by omega
  intro nonzero
  -- Both averages are multiples of one unit, so a difference of less than the unit is none.
  obtain ⟨c, multiple⟩ := exists_nearest_eq (average_low (s := s) pos few)
  obtain ⟨c', multiple'⟩ := exists_nearest_eq (average_low (s := s') pos few)
  have units : nearest (s / n) - nearest (s' / n) = ((c - c' : ℤ) : ℚ) * 2 ^ (-11 - 52 : ℤ) := by
    rw [multiple, multiple']
    push_cast
    ring
  have low : 2 ^ (-11 - 52 : ℤ) ≤ |nearest (s / n) - nearest (s' / n)| := by
    rw [units] at nonzero ⊢
    rw [abs_mul, abs_of_pos (show (0 : ℚ) < 2 ^ (-11 - 52 : ℤ) by positivity)]
    have one_le : (1 : ℚ) ≤ |((c - c' : ℤ) : ℚ)| := by
      exact_mod_cast Int.one_le_abs fun zero => nonzero (by rw [zero, Int.cast_zero, zero_mul])
    exact le_mul_of_one_le_left (by positivity) one_le
  have high : |nearest (s / n) - nearest (s' / n)| < 2 ^ (9 : ℤ) := by
    have above := nearest_nonneg (show (0 : ℚ) ≤ s / n by positivity)
    have above' := nearest_nonneg (show (0 : ℚ) ≤ s' / n by positivity)
    have below := nearest_le_zpow (by positivity) (average_high bytes)
    have below' := nearest_le_zpow (by positivity) (average_high bytes')
    norm_num at below below'
    rw [abs_lt]
    constructor <;> norm_num <;> linarith
  exact .of_powers low high (by norm_num) (by norm_num)

theorem is_five : Is 5.0 5 := by
  have digits : Normal (5 * 2 ^ 50) (-50) := ⟨by norm_num, by norm_num, by norm_num, by norm_num⟩
  have denotes := Denotes.finite .positive (by norm_num) digits
  have value : sgn .positive * ((5 * 2 ^ 50 : ℕ) * 2 ^ (-50 : ℤ)) = 5 := by
    norm_num [sgn]
  rw [value] at denotes
  exact denotes

/-! ## Packed or planar -/

theorem everyOther_lt (data : Bytes) (first : ℕ) (pos : 0 < n) : everyOther data first n < 2 ^ 8 * n := by
  have bytes : everyOther data first n ≤ ∑ _i ∈ Finset.range n, 255 :=
    Finset.sum_le_sum fun i _ => Nat.le_of_lt_succ (UInt8.toNat_lt _)
  rw [Finset.sum_const, Finset.card_range, smul_eq_mul] at bytes
  omega

/-- The two sums lie as far apart as those of a packed frame, unless it slips the roundings. -/
def LiesApart (even odd n : ℕ) : Prop :=
  5 * n ≤ |(even : ℤ) - odd| ∧ ¬(|(even : ℤ) - odd| = 5 * n ∧ Slips (min even odd) n)

instance (even odd n : ℕ) : Decidable (LiesApart even odd n) :=
  inferInstanceAs (Decidable (_ ∧ _))

/-- Rounded averages are five apart, but for the last digit, just when the sums lie apart. -/
theorem gap_iff {even odd : ℕ} (few : n ≤ 1920) (bytes : even < 2 ^ 8 * n) (bytes' : odd < 2 ^ 8 * n) :
    5 - 2 ^ (-51 : ℤ) ≤ |nearest (even / n) - nearest (odd / n)| ↔ LiesApart even odd n := by
  unfold LiesApart
  rcases le_total even odd with le | le
  · have reached : even + 5 * n ≤ odd ↔ 5 * (n : ℤ) ≤ -(even - odd) := by omega
    have exact : odd = even + 5 * n ↔ -((even : ℤ) - odd) = 5 * n := by omega
    rw [gap_of_le few bytes' le, min_eq_left le, abs_of_nonpos (by omega), reached, exact]
  · have reached : odd + 5 * n ≤ even ↔ 5 * (n : ℤ) ≤ even - odd := by omega
    have exact : even = odd + 5 * n ↔ (even : ℤ) - odd = 5 * n := by omega
    rw [abs_sub_comm, gap_of_le few bytes le, min_eq_right le, abs_of_nonneg (by omega), reached, exact]

/-- Data look packed when the averages of the probed bytes lie apart. -/
theorem looksPacked_iff {data : Bytes} (pos : 0 < n) (probed : min probeLength data.size = 2 * n) :
    looksPacked data = true ↔ LiesApart (everyOther data 0 n) (everyOther data 1 n) n := by
  have few : n ≤ 1920 := by
    unfold probeLength at probed
    omega
  obtain ⟨evens, odds, turns, length, length', sum, sum'⟩ := alternate_probe probed
  have bytes := everyOther_lt data 0 pos
  have bytes' := everyOther_lt data 1 pos
  have gap := ((is_average (by omega) length sum bytes).sub (is_average (by omega) length' sum' bytes')
    (gap_fits (by omega) bytes bytes')).abs
  unfold looksPacked scanlineAverages
  rw [turns]
  dsimp only
  rw [decide_eq_true_iff, ge_iff_le, is_five.le_iff gap, abs_nearest, five_le_nearest_iff (abs_nonneg _)]
  exact gap_iff few bytes bytes'

/-- **A frame of the 4:2:2 length is packed or planar** by the exact averages of the bytes at even places and of those
at odd places, except for some frames with averages that lie five apart. -/
theorem classify_of_len422 {g : Geometry} {data : Bytes} (size : g.len422? = some data.size) (some' : 0 < data.size) :
    let n := min probeLength data.size / 2
    (wordLimit ≤ g.pixels * 3 → classify data g = Attempt.halt .overflow) ∧
    (g.pixels * 3 < wordLimit → classify data g = .ok (some
      (if LiesApart (everyOther data 0 n) (everyOther data 1 n) n then .packed422 else .planar422))) := by
  have pixels := (Geometry.len422?_eq_some_iff.1 size).2
  intro n
  refine ⟨fun large => ?_, fun fits => ?_⟩
  · -- The other length is worked out first, from a product that is no word.
    have none : g.len420? = none := by
      unfold Geometry.len420? word?
      rw [if_neg (by omega)]
      rfl
    have filled : data.isEmpty = false := by
      rw [Bool.eq_false_iff, ne_eq, Array.isEmpty_iff_size_eq_zero]
      exact some'.ne'
    unfold classify
    rw [none, filled]
    rfl
  · have h420 : g.len420? = some (g.pixels * 3 / 2) := Geometry.len420?_eq_some_iff.2 ⟨fits, rfl⟩
    have probed : min probeLength data.size = 2 * n := by
      unfold n probeLength
      omega
    have looks := looksPacked_iff (by unfold probeLength at probed; omega) probed
    rw [classify_eq h420 size, if_neg some'.ne', if_neg (lengths_apart h420 size some').symm, if_pos rfl]
    simp only [looks]

/-- Two pairs of bytes that lie five apart. -/
theorem classify_of_len422_pair :
    Geometry.len422? ⟨2, 1⟩ = some (Array.size #[105, 100, 105, 100]) ∧ 0 < Array.size #[105, 100, 105, 100] ∧
      2 * 3 < wordLimit ∧ classify #[105, 100, 105, 100] ⟨2, 1⟩ = .ok (some .packed422) := by
  have size : Geometry.len422? ⟨2, 1⟩ = some (Array.size (#[105, 100, 105, 100] : Bytes)) := rfl
  exact ⟨size, by decide, by decide, (classify_of_len422 size (by decide)).2 (by decide)⟩

/-- The averages 386 / 3 and 371 / 3 lie five apart. The greater one is rounded down, the lesser one is rounded up, and
the frame is taken to be planar. -/
theorem classify_rounded : Geometry.len422? ⟨3, 1⟩ = some (Array.size #[128, 123, 129, 124, 129, 124]) ∧
    (5 * 3 ≤ |(everyOther #[128, 123, 129, 124, 129, 124] 0 3 : ℤ) - everyOther #[128, 123, 129, 124, 129, 124] 1 3|) ∧
    classify #[128, 123, 129, 124, 129, 124] ⟨3, 1⟩ = .ok (some .planar422) := by
  refine ⟨rfl, by decide, ?_⟩
  rfl

end FrameFormat

end Camcorder

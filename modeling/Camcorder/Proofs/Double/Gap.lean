import Mathlib
import Camcorder.Proofs.Double.Rounding

/-!
# The gap between two rounded averages

Two averages of bytes are rounded and subtracted, and the difference is rounded and held against five. The outcome is
that of the exact averages unless these lie five apart (`gap_iff`). If they do, the greater one may have been rounded
down and the lesser one, for which there are more digits after the point, may have been rounded up, and then the gap
falls short of five. `Slips` says in whole numbers when it does.
-/

namespace Camcorder

namespace Double

/-! ## The threshold -/

/-- Rounding makes up for half a unit in the last place, as five is even. -/
theorem five_le_nearest_iff {z : ℚ} (nonneg : 0 ≤ z) : 5 ≤ nearest z ↔ 5 - 2 ^ (-51 : ℤ) ≤ z := by
  have pos : (0 : ℚ) < 2 ^ (-51 : ℤ) := by positivity
  have small : (2 : ℚ) ^ (-51 : ℤ) < 1 := by norm_num
  rcases lt_or_ge z 4 with low | low
  · have bound : nearest z ≤ 2 ^ (2 : ℤ) := nearest_le_zpow nonneg (by linarith)
    norm_num at bound
    constructor <;> intro h <;> linarith
  · rcases lt_or_ge z 8 with high | high
    · -- Here the last digit weighs `2 ^ (-50)`, so the half way to five from below is what is asked for.
      have unit : ulp z = 2 ^ (-50 : ℤ) := ulp_eq (k := 2) (by norm_num; linarith) (by norm_num; linarith)
      have even : Even (5 * 2 ^ 50 : ℤ) := by decide
      have whole : (5 : ℚ) = ((5 * 2 ^ 50 : ℤ) : ℚ) * 2 ^ (-50 : ℤ) := by norm_num
      unfold nearest
      rw [unit]
      calc 5 ≤ toEven (z / 2 ^ (-50 : ℤ)) * (2 : ℚ) ^ (-50 : ℤ) ↔
          ((5 * 2 ^ 50 : ℤ) : ℚ) ≤ (toEven (z / 2 ^ (-50 : ℤ)) : ℚ) := by
            nth_rewrite 1 [whole]
            exact mul_le_mul_iff_left₀ (by positivity)
        _ ↔ 5 * 2 ^ 50 ≤ toEven (z / 2 ^ (-50 : ℤ)) := Int.cast_le
        _ ↔ ((5 * 2 ^ 50 : ℤ) : ℚ) - 1 / 2 ≤ z / 2 ^ (-50 : ℤ) := le_toEven_iff_of_even even
        _ ↔ 5 - 2 ^ (-51 : ℤ) ≤ z := by
            rw [le_div_iff₀ (by positivity)]
            norm_num
    · have bound : 2 ^ (3 : ℤ) ≤ nearest z := zpow_le_nearest (by linarith)
      norm_num at bound
      constructor <;> intro h <;> linarith

/-! ## Averages that lie five apart -/

/-- Whether the gap between the roundings of `m / n` and `m / n + 5` falls short of five. The greater one begins with the
digit for `2 ^ k`. To as many digits after the point as there are for it, both averages leave `r / n` of the last digit's
weight. The greater one is rounded down if this is less than a half; the lesser one has one digit more, or two if it is
less than four, and may be rounded up. -/
def Slips (m n : ℕ) : Prop :=
  let k := Nat.log2 ((m + 5 * n) / n)
  let r := m * 2 ^ (52 - k) % n
  3 ≤ k ∧ m < 2 ^ k * n ∧ 2 * r < n ∧ if m < 4 * n then 3 * n ≤ 8 * r else n < 4 * r

instance (m n : ℕ) : Decidable (Slips m n) :=
  inferInstanceAs (Decidable (_ ∧ _ ∧ _ ∧ _))

/-- Two averages of at most `2 ^ 11` bytes that lie five apart, `m / n` and one that begins with the digit for
`2 ^ k`. -/
structure Binade (m n k : ℕ) : Prop where
  pos : 0 < n
  few : n < 2 ^ 11
  low : 2 ^ k * n ≤ m + 5 * n
  high : m + 5 * n < 2 ^ (k + 1) * n
  le : k ≤ 7

namespace Binade

variable {m n k : ℕ}

/-- The binade of an average five higher than another. -/
theorem of_log2 (pos : 0 < n) (few : n < 2 ^ 11) (bytes : m + 5 * n < 2 ^ 8 * n) :
    Binade m n (Nat.log2 ((m + 5 * n) / n)) := by
  have nonzero : (m + 5 * n) / n ≠ 0 := by
    have := (Nat.le_div_iff_mul_le pos).2 (show 1 * n ≤ m + 5 * n by omega)
    omega
  refine ⟨pos, few, (Nat.le_div_iff_mul_le pos).1 (Nat.log2_self_le nonzero),
    (Nat.div_lt_iff_lt_mul pos).1 Nat.lt_log2_self, ?_⟩
  have := (Nat.log2_lt nonzero).2 ((Nat.div_lt_iff_lt_mul pos).2 bytes)
  omega

theorem two_le (b : Binade m n k) : 2 ≤ k := by
  have pos := b.pos
  have high := b.high
  by_contra small
  have : 2 ^ (k + 1) ≤ 2 ^ 2 := Nat.pow_le_pow_right two_pos (by omega)
  have := Nat.mul_le_mul_right n this
  omega

theorem unit_eq (b : Binade m n k) : (2 : ℚ) ^ (k - 52 : ℤ) = (2 ^ (52 - k))⁻¹ := by
  have le := b.le
  rw [← zpow_natCast, ← zpow_neg]
  congr 1
  omega

/-- The units of the greater average in the lesser one, as a fraction. -/
theorem units_eq (b : Binade m n k) :
    (m / n / 2 ^ (k - 52 : ℤ) : ℚ) = (m * 2 ^ (52 - k) / n : ℕ) + (m * 2 ^ (52 - k) % n : ℕ) / n := by
  rw [← natCast_div_eq _ b.pos, b.unit_eq, div_inv_eq_mul, div_mul_eq_mul_div]
  push_cast
  rfl

/-- Both averages are rounded alike where they have as many digits after the point. -/
theorem nearest_add_five (b : Binade m n k) :
    nearest (m / n + 5) = toEven (m / n / 2 ^ (k - 52 : ℤ)) * 2 ^ (k - 52 : ℤ) + 5 := by
  have pos : (0 : ℚ) < n := by exact_mod_cast b.pos
  have le := b.le
  have sum : (m / n + 5 : ℚ) = (m + 5 * n : ℕ) / n := by
    push_cast
    field_simp
  have unit : ulp (m / n + 5) = 2 ^ (k - 52 : ℤ) := by
    apply ulp_eq
    · rw [sum, le_div_iff₀ pos]
      exact_mod_cast b.low
    · rw [sum, div_lt_iff₀ pos]
      exact_mod_cast b.high
  have five : (5 : ℚ) = ((5 * 2 ^ (52 - k) : ℤ) : ℚ) * 2 ^ (k - 52 : ℤ) := by
    rw [b.unit_eq]
    push_cast
    field_simp
  have even : Even (5 * 2 ^ (52 - k) : ℤ) := by
    have : Even ((2 : ℤ) ^ (52 - k)) := (even_two).pow_of_ne_zero (by omega)
    exact this.mul_left 5
  have moved : (m / n + 5 : ℚ) / 2 ^ (k - 52 : ℤ) = m / n / 2 ^ (k - 52 : ℤ) + ((5 * 2 ^ (52 - k) : ℤ) : ℚ) := by
    rw [add_div]
    congr 1
    rw [div_eq_iff (by positivity)]
    exact five
  unfold nearest
  rw [unit, moved, toEven_add_even _ even, Int.cast_add, add_mul, ← five]

/-- There are too few bytes for the lesser average to lie half way between two units of the greater one. -/
theorem remainder_ne_half (b : Binade m n k) : 2 * (m * 2 ^ (52 - k) % n) ≠ n := by
  intro half
  have le := b.le
  have few := b.few
  have pos := b.pos
  have whole := Nat.div_add_mod (m * 2 ^ (52 - k)) n
  set q := m * 2 ^ (52 - k) / n
  set r := m * 2 ^ (52 - k) % n
  -- An odd multiple of `n` would be a multiple of a power of two that is greater than `n`.
  have odd : n * (2 * q + 1) = 2 ^ (53 - k) * m := by
    rw [show 53 - k = 52 - k + 1 by omega, pow_succ]
    nlinarith
  have coprime : Nat.Coprime (2 ^ (53 - k)) (2 * q + 1) := by
    apply Nat.Coprime.pow_left
    simp
  have divides : 2 ^ (53 - k) ∣ n := coprime.dvd_of_dvd_mul_right (Dvd.intro _ odd.symm)
  have large : 2 ^ 46 ≤ 2 ^ (53 - k) := Nat.pow_le_pow_right two_pos (by omega)
  have := Nat.le_of_dvd pos divides
  omega

/-- Averages with equally many digits after the point are rounded by the same amount. -/
theorem nearest_of_same (b : Binade m n k) (same : 2 ^ k * n ≤ m) :
    nearest (m / n) = toEven (m / n / 2 ^ (k - 52 : ℤ)) * 2 ^ (k - 52 : ℤ) := by
  have pos : (0 : ℚ) < n := by exact_mod_cast b.pos
  have high := b.high
  have unit : ulp (m / n) = 2 ^ (k - 52 : ℤ) := by
    apply ulp_eq
    · rw [le_div_iff₀ pos]
      exact_mod_cast same
    · rw [div_lt_iff₀ pos]
      exact_mod_cast (show m < 2 ^ (k + 1) * n by omega)
  unfold nearest
  rw [unit]

/-- Rounding to finer units does not lead beyond the middle between two of the coarser ones. -/
theorem nearest_le_middle (b : Binade m n k) (finer : m < 2 ^ k * n) :
    nearest (m / n) ≤ (toEven (m / n / 2 ^ (k - 52 : ℤ)) + 1 / 2) * 2 ^ (k - 52 : ℤ) := by
  have pos : (0 : ℚ) < n := by exact_mod_cast b.pos
  have below : (m / n : ℚ) < 2 ^ (k : ℤ) := by
    rw [div_lt_iff₀ pos]
    exact_mod_cast finer
  have unit_pos : (0 : ℚ) < 2 ^ (k - 52 : ℤ) := by positivity
  set x : ℚ := m / n with x_def
  set t := toEven (x / 2 ^ (k - 52 : ℤ)) with t_def
  have middle : x ≤ (t + 1 / 2) * 2 ^ (k - 52 : ℤ) := by
    have near := (abs_le.1 (abs_sub_toEven_le (x / 2 ^ (k - 52 : ℤ)))).2
    rw [← div_le_iff₀ unit_pos]
    linarith
  rcases (show (0 : ℚ) ≤ x by positivity).eq_or_lt with zero | some
  · rw [← zero, nearest_zero]
    exact zero.le.trans middle
  · have log : Int.log 2 x + 1 ≤ k := (Int.lt_zpow_iff_log_lt (by norm_num) some).1 below
    obtain ⟨j, exponent⟩ : ∃ j : ℕ, (k : ℤ) = Int.log 2 x + 1 + j := Int.le.dest log |>.imp fun _ h => h.symm
    -- The middle is a multiple of the finer unit.
    have multiple : (t + 1 / 2 : ℚ) * 2 ^ (k - 52 : ℤ) = (((2 * t + 1) * 2 ^ j : ℤ) : ℚ) * ulp x := by
      unfold ulp
      rw [abs_of_pos some, exponent, show Int.log 2 x + 1 + j - 52 = Int.log 2 x - 52 + 1 + j by ring,
        zpow_add₀ two_ne_zero, zpow_add_one₀ two_ne_zero, zpow_natCast]
      push_cast
      ring
    rw [multiple] at middle ⊢
    exact nearest_le middle

/-- The lesser average rounded to units of which there are evenly many in one of the greater one's. -/
theorem nearest_of_finer (b : Binade m n k) {c : ℕ} (even : Even c) (some : 0 < c)
    (finer : ulp (m / n) = 2 ^ (k - 52 : ℤ) / c) :
    nearest (m / n) =
      ((m * 2 ^ (52 - k) / n : ℕ) + toEven (c * (m * 2 ^ (52 - k) % n : ℕ) / n) / c) * 2 ^ (k - 52 : ℤ) := by
  have c_pos : (0 : ℚ) < c := by exact_mod_cast some
  set q := m * 2 ^ (52 - k) / n with q_def
  have even' : Even ((c * q : ℕ) : ℤ) := by exact_mod_cast even.mul_right q
  have units : (m / n / (2 ^ (k - 52 : ℤ) / c) : ℚ) =
      c * (m * 2 ^ (52 - k) % n : ℕ) / n + (((c * q : ℕ) : ℤ) : ℚ) := by
    rw [div_div_eq_mul_div, mul_comm, mul_div_assoc, b.units_eq, Int.cast_natCast]
    push_cast
    ring
  unfold nearest
  rw [finer, units, toEven_add_even _ even']
  push_cast
  field_simp
  ring

/-- Where the units of the lesser average are finer, the gap falls short by what is left of that average after rounding,
if the greater one is rounded down. -/
theorem five_le_iff_of_finer (b : Binade m n k) {c : ℕ} (even : Even c) (some : 0 < c)
    (finer : ulp (m / n) = 2 ^ (k - 52 : ℤ) / c) :
    5 - 2 ^ (-51 : ℤ) ≤ nearest (m / n + 5) - nearest (m / n) ↔
      ¬(2 * (m * 2 ^ (52 - k) % n) < n ∧
        2 ^ (-51 : ℤ) < toEven (c * (m * 2 ^ (52 - k) % n : ℕ) / n) / c * (2 : ℚ) ^ (k - 52 : ℤ)) := by
  have pos : (0 : ℚ) < n := by exact_mod_cast b.pos
  have c_pos : (0 : ℚ) < c := by exact_mod_cast some
  have unit_pos : (0 : ℚ) < 2 ^ (k - 52 : ℤ) := by positivity
  have slack : (0 : ℚ) < 2 ^ (-51 : ℤ) := by positivity
  have units := b.units_eq
  have not_half := b.remainder_ne_half
  rw [b.nearest_of_finer even some finer, b.nearest_add_five, units]
  set r := m * 2 ^ (52 - k) % n with r_def
  set q := m * 2 ^ (52 - k) / n with q_def
  set u : ℚ := 2 ^ (k - 52 : ℤ) with u_def
  have remainder : r < n := Nat.mod_lt _ b.pos
  rcases lt_or_gt_of_ne not_half with below | above
  · have down : toEven (q + r / n : ℚ) = q := by
      have low : (0 : ℚ) ≤ r / n := by positivity
      have high : (r / n : ℚ) < 1 / 2 := by
        rw [div_lt_div_iff₀ pos two_pos]
        exact_mod_cast (show r * 2 < 1 * n by omega)
      apply toEven_eq_of_lt <;> push_cast <;> linarith
    rw [down, Int.cast_natCast]
    simp only [below, true_and, not_lt]
    constructor <;> intro h <;> linarith
  · -- The greater average is rounded up, and the lesser one not by more than that.
    have up : toEven (q + r / n : ℚ) = q + 1 := by
      have high : (r / n : ℚ) < 1 := (div_lt_one pos).2 (by exact_mod_cast remainder)
      have low : (1 / 2 : ℚ) < r / n := by
        rw [div_lt_div_iff₀ two_pos pos]
        exact_mod_cast (show 1 * n < r * 2 by omega)
      apply toEven_eq_of_lt <;> push_cast <;> linarith
    have at_most : (toEven (c * r / n : ℚ) / c : ℚ) ≤ 1 := by
      rw [div_le_one c_pos]
      have : toEven (c * r / n : ℚ) ≤ (c : ℤ) := by
        apply toEven_le
        rw [div_le_iff₀ pos]
        exact_mod_cast Nat.mul_le_mul_left c remainder.le
      exact_mod_cast this
    have : ¬2 * r < n := by omega
    rw [up]
    simp only [this, false_and, not_false_eq_true, iff_true]
    push_cast
    have := mul_le_mul_of_nonneg_right at_most unit_pos.le
    linarith

theorem eq_three (b : Binade m n k) (three_le : 3 ≤ k) (quarter : m < 4 * n) : k = 3 := by
  have low := b.low
  by_contra other
  have : 2 ^ 4 ≤ 2 ^ k := Nat.pow_le_pow_right two_pos (by omega)
  have := Nat.mul_le_mul_right n this
  omega

/-- How fine the numbers are around the lower average, if that is two binades down. -/
theorem ulp_of_quarter (b : Binade m n k) (three_le : 3 ≤ k) (quarter : m < 4 * n) :
    ulp (m / n) = 2 ^ (k - 52 : ℤ) / (4 : ℕ) := by
  have pos : (0 : ℚ) < n := by exact_mod_cast b.pos
  obtain rfl := b.eq_three three_le quarter
  have low := b.low
  have unit : ulp (m / n) = 2 ^ (1 - 52 : ℤ) := by
    apply ulp_eq
    · rw [le_div_iff₀ pos]
      exact_mod_cast (show 2 ^ 1 * n ≤ m by omega)
    · rw [div_lt_iff₀ pos]
      exact_mod_cast (show m < 2 ^ (1 + 1) * n by omega)
  rw [unit]
  norm_num

/-- How fine they are if it is one binade down. -/
theorem ulp_of_half (b : Binade m n k) (three_le : 3 ≤ k) (finer : m < 2 ^ k * n) (quarter : ¬m < 4 * n) :
    ulp (m / n) = 2 ^ (k - 52 : ℤ) / (2 : ℕ) := by
  have pos : (0 : ℚ) < n := by exact_mod_cast b.pos
  have low := b.low
  obtain ⟨j, rfl⟩ : ∃ j, k = j + 1 := ⟨k - 1, by omega⟩
  have above : 2 ^ j * n ≤ m := by
    rw [pow_succ] at low
    rcases (show 2 ≤ j by omega).eq_or_lt with rfl | more
    · omega
    · have : 2 ^ 3 ≤ 2 ^ j := Nat.pow_le_pow_right two_pos more
      have := Nat.mul_le_mul_right n this
      rw [mul_right_comm] at low
      omega
  have unit : ulp (m / n) = 2 ^ (j - 52 : ℤ) := by
    apply ulp_eq
    · rw [le_div_iff₀ pos]
      exact_mod_cast above
    · rw [div_lt_iff₀ pos]
      exact_mod_cast finer
  have next : ((j + 1 : ℕ) - 52 : ℤ) = j - 52 + 1 := by
    push_cast
    ring
  rw [unit, next, zpow_add_one₀ two_ne_zero]
  norm_num

/-- With two digits more than the greater average, the lesser one must be rounded up by two of them. -/
theorem slips_quarter_iff (b : Binade m n k) (three_le : 3 ≤ k) (quarter : m < 4 * n) {r : ℕ} :
    2 ^ (-51 : ℤ) < toEven ((4 : ℕ) * r / n) / (4 : ℕ) * (2 : ℚ) ^ (k - 52 : ℤ) ↔ 3 * n ≤ 8 * r := by
  have pos : (0 : ℚ) < n := by exact_mod_cast b.pos
  obtain rfl := b.eq_three three_le quarter
  have cast_iff : (((3 * n : ℕ) : ℚ) ≤ (8 * r : ℕ)) ↔ 3 * n ≤ 8 * r := Nat.cast_le
  generalize rounded : toEven ((4 : ℕ) * r / n : ℚ) = t
  calc 2 ^ (-51 : ℤ) < (t / (4 : ℕ) * 2 ^ ((3 : ℕ) - 52 : ℤ) : ℚ) ↔ ((1 : ℤ) : ℚ) < t := by
        norm_num
        constructor <;> intro h <;> linarith
    _ ↔ 2 ≤ t := Int.cast_lt
    _ ↔ ((2 : ℤ) : ℚ) - 1 / 2 ≤ (4 : ℕ) * r / n := by rw [← rounded, le_toEven_iff_of_even even_two]
    _ ↔ 3 * n ≤ 8 * r := by
        rw [le_div_iff₀ pos, ← cast_iff]
        push_cast
        constructor <;> intro h <;> linarith

/-- With one digit more than the greater average, the lesser one must be rounded up. -/
theorem slips_half_iff (b : Binade m n k) (three_le : 3 ≤ k) {r : ℕ} :
    2 ^ (-51 : ℤ) < toEven ((2 : ℕ) * r / n) / (2 : ℕ) * (2 : ℚ) ^ (k - 52 : ℤ) ↔ n < 4 * r := by
  have pos : (0 : ℚ) < n := by exact_mod_cast b.pos
  have unit : (2 : ℚ) ^ (-49 : ℤ) ≤ 2 ^ (k - 52 : ℤ) := zpow_le_zpow_right₀ one_le_two (by omega)
  have cast_iff : (((n : ℕ) : ℚ) < (4 * r : ℕ)) ↔ n < 4 * r := Nat.cast_lt
  generalize rounded : toEven ((2 : ℕ) * r / n : ℚ) = t
  calc 2 ^ (-51 : ℤ) < (t / (2 : ℕ) * 2 ^ (k - 52 : ℤ) : ℚ) ↔ 1 ≤ t := by
        constructor
        · intro h
          by_contra none
          have nonpos : (t / (2 : ℕ) : ℚ) ≤ 0 :=
            div_nonpos_of_nonpos_of_nonneg (by exact_mod_cast (show t ≤ 0 by omega)) (by norm_num)
          have : (t / (2 : ℕ) * 2 ^ (k - 52 : ℤ) : ℚ) ≤ 0 := mul_nonpos_of_nonpos_of_nonneg nonpos (by positivity)
          exact (h.trans_le this).not_ge (by positivity)
        · intro some
          have one_le : (1 : ℚ) ≤ t := by exact_mod_cast some
          calc (2 : ℚ) ^ (-51 : ℤ) < 1 / (2 : ℕ) * 2 ^ (-49 : ℤ) := by norm_num
            _ ≤ t / (2 : ℕ) * 2 ^ (k - 52 : ℤ) :=
                mul_le_mul (div_le_div_of_nonneg_right one_le (by norm_num)) unit (by positivity) (by positivity)
    _ ↔ ((1 : ℤ) : ℚ) - 1 / 2 < (2 : ℕ) * r / n := by rw [← rounded, le_toEven_iff_of_odd odd_one]
    _ ↔ n < 4 * r := by
        rw [lt_div_iff₀ pos, ← cast_iff]
        push_cast
        constructor <;> intro h <;> linarith

/-- The gap falls short of five, by more than is made up for, just where `Slips` says so. -/
theorem five_le_gap_iff (pos : 0 < n) (few : n < 2 ^ 11) (bytes : m + 5 * n < 2 ^ 8 * n) :
    5 - 2 ^ (-51 : ℤ) ≤ nearest (m / n + 5) - nearest (m / n) ↔ ¬Slips m n := by
  have b := of_log2 pos few bytes
  unfold Slips
  dsimp only
  generalize Nat.log2 ((m + 5 * n) / n) = k at b
  have low := b.low
  have slack : (0 : ℚ) < 2 ^ (-51 : ℤ) := by positivity
  have pos' : (0 : ℚ) < n := by exact_mod_cast pos
  rcases le_or_gt (2 ^ k * n) m with same | finer
  · have : ¬m < 2 ^ k * n := by omega
    rw [b.nearest_of_same same, b.nearest_add_five]
    simp only [this, false_and, and_false, not_false_eq_true, iff_true]
    linarith
  · rcases b.two_le.eq_or_lt with rfl | three_le
    · -- Half a unit of the greater average is as much as the last rounding makes up for.
      have middle := b.nearest_le_middle finer
      rw [b.nearest_add_five]
      norm_num at middle ⊢
      linarith
    · replace three_le : 3 ≤ k := three_le
      by_cases quarter : m < 4 * n
      · have finest := b.ulp_of_quarter three_le quarter
        rw [b.five_le_iff_of_finer (by decide) (by norm_num) finest]
        simp only [three_le, finer, quarter, true_and, if_true]
        rw [b.slips_quarter_iff three_le quarter]
      · have half := b.ulp_of_half three_le finer quarter
        rw [b.five_le_iff_of_finer (by decide) (by norm_num) half]
        simp only [three_le, finer, quarter, true_and, if_false]
        rw [b.slips_half_iff three_le]

end Binade

/-! ## Averages that lie anywhere -/

variable {m m' n : ℕ}

/-- An average of bytes is rounded by little. -/
theorem average_near (bytes : m < 2 ^ 8 * n) : |(m / n : ℚ) - nearest (m / n)| ≤ 2 ^ (-46 : ℤ) := by
  have pos : (0 : ℚ) < n := by exact_mod_cast (show 0 < n by omega)
  have below : (m / n : ℚ) < 2 ^ (8 : ℤ) := by
    rw [div_lt_iff₀ pos]
    exact_mod_cast bytes
  exact abs_sub_nearest_lt (by positivity) below

/-- The averages of up to 1920 bytes are too far from five apart for roundings to matter, if they are not five apart. -/
theorem gap_of_le (few : n ≤ 1920) (bytes : m' < 2 ^ 8 * n) (le : m ≤ m') :
    5 - 2 ^ (-51 : ℤ) ≤ |nearest (m / n) - nearest (m' / n)| ↔ m + 5 * n ≤ m' ∧ ¬(m' = m + 5 * n ∧ Slips m n) := by
  have pos : 0 < n := by omega
  have pos' : (0 : ℚ) < n := by exact_mod_cast pos
  have near := abs_le.1 (average_near (le.trans_lt bytes))
  have near' := abs_le.1 (average_near bytes)
  have one : (1 / 1920 : ℚ) ≤ 1 / n := one_div_le_one_div_of_le pos' (by exact_mod_cast few)
  norm_num at near near'
  -- Unless the averages lie five apart, they miss it by `1 / n`, and all roundings together come to less.
  rcases lt_trichotomy m' (m + 5 * n) with lt | rfl | gt
  · have apart : (m' / n + 1 / n : ℚ) ≤ m / n + 5 := by
      rw [← add_div, div_le_iff₀ pos', add_mul, div_mul_cancel₀ _ pos'.ne']
      exact_mod_cast lt
    have small : |nearest (m / n) - nearest (m' / n)| < 5 - 2 ^ (-51 : ℤ) := by
      have order : (m / n : ℚ) ≤ m' / n := div_le_div_of_nonneg_right (by exact_mod_cast le) pos'.le
      rw [abs_lt]
      constructor <;> norm_num <;> linarith
    have short : ¬m + 5 * n ≤ m' := by omega
    simp only [small.not_ge, short, false_and]
  · have apart : ((m + 5 * n : ℕ) / n : ℚ) = m / n + 5 := by
      push_cast
      field_simp
    rw [apart] at near' ⊢
    have order : nearest (m / n) - nearest (m / n + 5) ≤ 0 := by linarith
    rw [abs_of_nonpos order, neg_sub, Binade.five_le_gap_iff pos (by omega) bytes]
    simp only [le_refl, true_and]
  · have apart : (m / n + 5 + 1 / n : ℚ) ≤ m' / n := by
      rw [le_div_iff₀ pos', add_mul, add_mul, div_mul_cancel₀ _ pos'.ne', div_mul_cancel₀ _ pos'.ne']
      exact_mod_cast gt
    have large : 5 - 2 ^ (-51 : ℤ) ≤ |nearest (m / n) - nearest (m' / n)| := by
      refine le_trans ?_ (neg_le_abs _)
      norm_num
      linarith
    have reached : m + 5 * n ≤ m' := gt.le
    simp only [large, reached, gt.ne', false_and, not_false_eq_true, and_self]

end Double

end Camcorder

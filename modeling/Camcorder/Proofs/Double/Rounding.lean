import Mathlib

/-!
# Rounding to 53 bits

In double precision a number is rounded to the nearest that has 53 binary digits, and of two that are equally near to
the one whose last digit is even. `nearest` does so with rational numbers of any size. `IsNearest` says what the
rounding to whole numbers comes to, `toEven` is that whole number (`toEven_isNearest`, `IsNearest.toEven_eq`).
-/

namespace Camcorder

namespace Double

/-! ## Whole numbers -/

/-- The whole number nearest to a number; of two that are equally near, the even one. -/
def toEven (x : ℚ) : ℤ :=
  if Int.fract x < 1 / 2 then ⌊x⌋ else if 1 / 2 < Int.fract x then ⌊x⌋ + 1 else ⌊x⌋ + ⌊x⌋ % 2

/-- A whole number to which no other is preferred. -/
def IsNearest (x : ℚ) (r : ℤ) : Prop := |x - r| < 1 / 2 ∨ |x - r| = 1 / 2 ∧ Even r

/-- Rounding to even gives a nearest integer. -/
theorem toEven_isNearest (x : ℚ) : IsNearest x (toEven x) := by
  have whole : x = ⌊x⌋ + Int.fract x := (Int.floor_add_fract x).symm
  have nonneg := Int.fract_nonneg x
  have lt_one := Int.fract_lt_one x
  unfold toEven IsNearest
  split
  · left
    rw [abs_lt]
    constructor <;> linarith
  · split
    · left
      push_cast
      rw [abs_lt]
      constructor <;> linarith
    · right
      have half : Int.fract x = 1 / 2 := by linarith
      rcases Int.emod_two_eq_zero_or_one ⌊x⌋ with even | odd
      · rw [even, add_zero]
        refine ⟨?_, Int.even_iff.2 even⟩
        rw [abs_eq (by norm_num)]
        left
        linarith
      · rw [odd]
        refine ⟨?_, Int.even_iff.2 (by omega)⟩
        push_cast
        rw [abs_eq (by norm_num)]
        right
        linarith

theorem IsNearest.abs_sub_le {x : ℚ} {r : ℤ} (h : IsNearest x r) : |x - r| ≤ 1 / 2 := by
  rcases h with lt | ⟨eq, -⟩
  · exact lt.le
  · exact eq.le

theorem IsNearest.not_lt {x : ℚ} {r r' : ℤ} (h : IsNearest x r) (h' : IsNearest x r') : ¬r < r' := by
  intro lt
  have near := abs_le.1 h.abs_sub_le
  have near' := abs_le.1 h'.abs_sub_le
  have step : (r : ℚ) + 1 ≤ r' := by exact_mod_cast lt
  -- They are neighbours with the number half way between, so one of the two is odd.
  have half : |x - r| = 1 / 2 := by
    rw [abs_eq (by norm_num)]
    left
    linarith
  have half' : |x - r'| = 1 / 2 := by
    rw [abs_eq (by norm_num)]
    right
    linarith
  have next : r' = r + 1 := by
    have : (r' : ℚ) = r + 1 := by linarith
    exact_mod_cast this
  rcases h with short | ⟨-, even⟩
  · exact short.ne half
  · rcases h' with short | ⟨-, even'⟩
    · exact short.ne half'
    · rw [next] at even'
      exact Int.even_add_one.1 even' even

/-- There is one nearest integer, as ties go to the even one. -/
theorem IsNearest.unique {x : ℚ} {r r' : ℤ} (h : IsNearest x r) (h' : IsNearest x r') : r = r' :=
  le_antisymm (Int.not_lt.1 (h'.not_lt h)) (Int.not_lt.1 (h.not_lt h'))

theorem IsNearest.toEven_eq {x : ℚ} {r : ℤ} (h : IsNearest x r) : toEven x = r :=
  (toEven_isNearest x).unique h

/-- An integer less than one half away is the one. -/
theorem toEven_eq_of_lt {x : ℚ} {r : ℤ} (low : (r : ℚ) - 1 / 2 < x) (high : x < r + 1 / 2) : toEven x = r :=
  IsNearest.toEven_eq (.inl (abs_lt.2 ⟨by linarith, by linarith⟩))

theorem toEven_neg (x : ℚ) : toEven (-x) = -toEven x := by
  have h := toEven_isNearest x
  have mirrored : |-x - ((-toEven x : ℤ) : ℚ)| = |x - toEven x| := by
    rw [← abs_neg]
    congr 1
    push_cast
    ring
  apply IsNearest.toEven_eq
  unfold IsNearest
  rw [mirrored, even_neg]
  exact h

@[simp] theorem toEven_intCast (r : ℤ) : toEven r = r :=
  toEven_eq_of_lt (by linarith) (by linarith)

theorem abs_sub_toEven_le (x : ℚ) : |x - toEven x| ≤ 1 / 2 := (toEven_isNearest x).abs_sub_le

/-- Rounding goes with the addition of even integers. -/
theorem toEven_add_even (x : ℚ) {r : ℤ} (even : Even r) : toEven (x + r) = toEven x + r := by
  have moved : x + r - ((toEven x + r : ℤ) : ℚ) = x - toEven x := by
    push_cast
    ring
  apply IsNearest.toEven_eq
  unfold IsNearest
  rw [moved, Int.even_add, iff_true_right even]
  exact toEven_isNearest x

/-- Half way down to the next lower number, an even number is rounded to. -/
theorem le_toEven_iff_of_even {x : ℚ} {r : ℤ} (even : Even r) : r ≤ toEven x ↔ (r : ℚ) - 1 / 2 ≤ x := by
  have near := abs_le.1 (abs_sub_toEven_le x)
  constructor
  · intro le
    have : (r : ℚ) ≤ toEven x := by exact_mod_cast le
    linarith
  · intro le
    rcases le.lt_or_eq with lt | half
    · have : (r : ℚ) < toEven x + 1 := by linarith
      have : r < toEven x + 1 := by exact_mod_cast this
      omega
    · refine (IsNearest.toEven_eq ?_).ge
      right
      rw [← half]
      exact ⟨by norm_num, even⟩

/-- Half way down to the next lower number, an odd number is not rounded to. -/
theorem le_toEven_iff_of_odd {x : ℚ} {r : ℤ} (odd : Odd r) : r ≤ toEven x ↔ (r : ℚ) - 1 / 2 < x := by
  have below : Even (1 - r) := odd_one.sub_odd odd
  have mirrored := le_toEven_iff_of_even (x := -x) below
  rw [toEven_neg] at mirrored
  push_cast at mirrored
  constructor
  · intro le
    by_contra above
    have := mirrored.2 (by linarith)
    omega
  · intro lt
    by_contra below
    have := mirrored.1 (by omega)
    linarith

/-- An integer below a number is below its rounding. -/
theorem le_toEven {x : ℚ} {r : ℤ} (h : r ≤ x) : r ≤ toEven x := by
  have near := abs_le.1 (abs_sub_toEven_le x)
  have : (r : ℚ) < toEven x + 1 := by linarith
  have : r < toEven x + 1 := by exact_mod_cast this
  omega

/-- One above a number is above its rounding. -/
theorem toEven_le {x : ℚ} {r : ℤ} (h : x ≤ r) : toEven x ≤ r := by
  have mirrored : -r ≤ toEven (-x) := le_toEven (by push_cast; linarith)
  rw [toEven_neg] at mirrored
  omega

/-- A fraction as the whole number in it and the rest. -/
theorem natCast_div_eq (a : ℕ) {b : ℕ} (pos : 0 < b) : (a / b : ℚ) = (a / b : ℕ) + (a % b : ℕ) / b := by
  have pos' : (0 : ℚ) < b := by exact_mod_cast pos
  have whole : (b * (a / b : ℕ) + (a % b : ℕ) : ℚ) = a := by exact_mod_cast Nat.div_add_mod a b
  rw [eq_comm, ← whole]
  field_simp

/-! ## Numbers with 53 digits -/

/-- The weight of the last of the 53 digits of a number. -/
def ulp (x : ℚ) : ℚ := 2 ^ (Int.log 2 |x| - 52)

/-- The number with 53 digits nearest to a number. -/
def nearest (x : ℚ) : ℚ := toEven (x / ulp x) * ulp x

theorem ulp_pos (x : ℚ) : 0 < ulp x := by
  unfold ulp
  positivity

theorem ulp_neg (x : ℚ) : ulp (-x) = ulp x := by
  unfold ulp
  rw [abs_neg]

theorem nearest_neg (x : ℚ) : nearest (-x) = -nearest x := by
  unfold nearest
  rw [ulp_neg, neg_div, toEven_neg]
  push_cast
  ring

@[simp] theorem nearest_zero : nearest 0 = 0 := by
  have zero : toEven 0 = 0 := by exact_mod_cast toEven_intCast 0
  unfold nearest
  rw [zero_div, zero, Int.cast_zero, zero_mul]

/-- A number is rounded by half the last digit's weight at most. -/
theorem abs_sub_nearest_le (x : ℚ) : |x - nearest x| ≤ ulp x / 2 := by
  have pos := ulp_pos x
  have scaled : x - nearest x = (x / ulp x - toEven (x / ulp x)) * ulp x := by
    unfold nearest
    field_simp
  rw [scaled, abs_mul, abs_of_pos pos]
  calc |x / ulp x - toEven (x / ulp x)| * ulp x ≤ 1 / 2 * ulp x :=
        mul_le_mul_of_nonneg_right (abs_sub_toEven_le _) pos.le
    _ = ulp x / 2 := by ring

/-- The digits of a number are counted from its leading one. -/
theorem ulp_eq {x : ℚ} {k : ℤ} (low : 2 ^ k ≤ x) (high : x < 2 ^ (k + 1)) : ulp x = 2 ^ (k - 52) := by
  have pos : 0 < x := lt_of_lt_of_le (by positivity) low
  have log : Int.log 2 x = k := by
    have ge : k ≤ Int.log 2 x := (Int.zpow_le_iff_le_log (by norm_num) pos).1 low
    have lt : Int.log 2 x < k + 1 := (Int.lt_zpow_iff_log_lt (by norm_num) pos).1 high
    omega
  unfold ulp
  rw [abs_of_pos pos, log]

/-- Where the last of 53 digits weighs `2 ^ e`, the number of such units is rounded. -/
theorem nearest_eq {x : ℚ} {e : ℤ} (low : 2 ^ 52 ≤ x) (high : x < 2 ^ 53) : nearest (x * 2 ^ e) = toEven x * 2 ^ e := by
  have pos : (0 : ℚ) < 2 ^ e := by positivity
  have unit : ulp (x * 2 ^ e) = 2 ^ e := by
    have bottom : (2 : ℚ) ^ (52 + e) = 2 ^ 52 * 2 ^ e := zpow_add₀ (by norm_num) 52 e
    have top : (2 : ℚ) ^ (52 + e + 1) = 2 ^ 53 * 2 ^ e := by
      rw [show 52 + e + 1 = 53 + e by ring]
      exact zpow_add₀ (by norm_num) 53 e
    rw [ulp_eq (k := 52 + e) (bottom.trans_le (mul_le_mul_of_nonneg_right low pos.le))
      ((mul_lt_mul_of_pos_right high pos).trans_eq top.symm), add_sub_cancel_left]
  unfold nearest
  rw [unit, mul_div_cancel_right₀ _ pos.ne']

/-- A number with 53 digits is its own rounding. -/
theorem nearest_of_digits {m e : ℤ} (low : 2 ^ 52 ≤ m) (high : m < 2 ^ 53) : nearest (m * 2 ^ e) = m * 2 ^ e := by
  rw [nearest_eq (by exact_mod_cast low) (by exact_mod_cast high), toEven_intCast]

/-- A multiple of the last digit's weight is not passed in rounding. -/
theorem nearest_le {x : ℚ} {c : ℤ} (h : x ≤ c * ulp x) : nearest x ≤ c * ulp x := by
  have pos := ulp_pos x
  have bound : toEven (x / ulp x) ≤ c := toEven_le ((div_le_iff₀ pos).2 h)
  exact mul_le_mul_of_nonneg_right (by exact_mod_cast bound) pos.le

/-- A multiple of the last digit's weight is not passed from above either. -/
theorem le_nearest {x : ℚ} {c : ℤ} (h : c * ulp x ≤ x) : c * ulp x ≤ nearest x := by
  have pos := ulp_pos x
  have bound : c ≤ toEven (x / ulp x) := le_toEven ((le_div_iff₀ pos).2 h)
  exact mul_le_mul_of_nonneg_right (by exact_mod_cast bound) pos.le

theorem ulp_mul_eq {x : ℚ} (pos : 0 < x) (j : ℕ) :
    ((2 ^ j : ℤ) : ℚ) * ulp x = 2 ^ (Int.log 2 x + (j - 52 : ℤ)) := by
  unfold ulp
  rw [abs_of_pos pos, Int.cast_pow, Int.cast_ofNat, ← zpow_natCast, ← zpow_add₀ two_ne_zero]
  congr 1
  ring

/-- Rounding does not lead below a power of two. -/
theorem zpow_le_nearest {x : ℚ} {k : ℤ} (h : 2 ^ k ≤ x) : 2 ^ k ≤ nearest x := by
  have pos : 0 < x := lt_of_lt_of_le (by positivity) h
  have power : ((2 ^ 52 : ℤ) : ℚ) * ulp x = 2 ^ Int.log 2 x := by
    simpa using ulp_mul_eq pos 52
  calc (2 : ℚ) ^ k ≤ 2 ^ Int.log 2 x :=
        zpow_le_zpow_right₀ one_le_two ((Int.zpow_le_iff_le_log (by norm_num) pos).1 h)
    _ = ((2 ^ 52 : ℤ) : ℚ) * ulp x := power.symm
    _ ≤ nearest x := le_nearest (power.trans_le (Int.zpow_log_le_self (by norm_num) pos))

/-- Rounding does not lead above a power of two. -/
theorem nearest_le_zpow {x : ℚ} {k : ℤ} (nonneg : 0 ≤ x) (h : x < 2 ^ k) : nearest x ≤ 2 ^ k := by
  rcases nonneg.eq_or_lt with rfl | pos
  · rw [nearest_zero]
    positivity
  · have power : ((2 ^ 53 : ℤ) : ℚ) * ulp x = 2 ^ (Int.log 2 x + 1) := by
      rw [ulp_mul_eq pos]
      norm_num
    calc nearest x ≤ ((2 ^ 53 : ℤ) : ℚ) * ulp x :=
          nearest_le ((Int.lt_zpow_succ_log_self (by norm_num) x).le.trans_eq power.symm)
      _ = 2 ^ (Int.log 2 x + 1) := power
      _ ≤ 2 ^ k := zpow_le_zpow_right₀ one_le_two ((Int.lt_zpow_iff_log_lt (by norm_num) pos).1 h)

/-- How far a number below a power of two is from its rounding. -/
theorem abs_sub_nearest_lt {x : ℚ} {k : ℤ} (nonneg : 0 ≤ x) (h : x < 2 ^ k) : |x - nearest x| ≤ 2 ^ (k - 54) := by
  rcases nonneg.eq_or_lt with rfl | pos
  · rw [nearest_zero, sub_zero, abs_zero]
    positivity
  · have log : Int.log 2 x + 1 ≤ k := (Int.lt_zpow_iff_log_lt (by norm_num) pos).1 h
    calc |x - nearest x| ≤ ulp x / 2 := abs_sub_nearest_le x
      _ = 2 ^ (Int.log 2 x - 52 - 1) := by
          unfold ulp
          rw [abs_of_pos pos, zpow_sub_one₀ two_ne_zero, div_eq_mul_inv]
      _ ≤ 2 ^ (k - 54) := zpow_le_zpow_right₀ one_le_two (by omega)

theorem nearest_nonneg {x : ℚ} (h : 0 ≤ x) : 0 ≤ nearest x := by
  have bound := le_nearest (x := x) (c := 0) (by rwa [Int.cast_zero, zero_mul])
  rwa [Int.cast_zero, zero_mul] at bound

theorem abs_nearest (x : ℚ) : |nearest x| = nearest |x| := by
  rcases le_total 0 x with nonneg | nonpos
  · rw [abs_of_nonneg nonneg, abs_of_nonneg (nearest_nonneg nonneg)]
  · have nonneg := nearest_nonneg (neg_nonneg.2 nonpos)
    rw [abs_of_nonpos nonpos, nearest_neg] at *
    exact abs_of_nonpos (neg_nonneg.1 nonneg)

/-- The rounding of a number that is not too small is a multiple of a unit that is not too small. -/
theorem exists_nearest_eq {x : ℚ} {k : ℤ} (h : x = 0 ∨ 2 ^ k ≤ x) : ∃ c : ℤ, nearest x = c * 2 ^ (k - 52) := by
  rcases h with rfl | low
  · exact ⟨0, by rw [nearest_zero, Int.cast_zero, zero_mul]⟩
  · have pos : 0 < x := lt_of_lt_of_le (by positivity) low
    have log : k ≤ Int.log 2 x := (Int.zpow_le_iff_le_log (by norm_num) pos).1 low
    obtain ⟨j, exponent⟩ : ∃ j : ℕ, Int.log 2 x = k + j := (Int.le.dest log).imp fun _ h => h.symm
    refine ⟨toEven (x / ulp x) * 2 ^ j, ?_⟩
    have unit : ulp x = 2 ^ j * 2 ^ (k - 52) := by
      unfold ulp
      rw [abs_of_pos pos, exponent, ← zpow_natCast, ← zpow_add₀ two_ne_zero]
      congr 1
      ring
    unfold nearest
    push_cast
    rw [mul_assoc, ← unit]

end Double

end Camcorder

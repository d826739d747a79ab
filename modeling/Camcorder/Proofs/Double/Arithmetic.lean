import Mathlib
import Camcorder.Proofs.Double.Model

/-!
# Arithmetic in double precision

A float that stands for a number (`Is`) is computed with as with the number itself, except that every result is
rounded to the nearest number with 53 digits: quotients (`Is.div`), differences (`Is.sub`), absolute values (`Is.abs`)
and comparisons (`Is.le_iff`). The results must not be so large or so small that the exponent does not fit.
-/

namespace Camcorder

namespace Double

open Float.Model Float.Model.Format Float.Model.UnpackedFloat

/-! ## Numbers that are rounded already -/

theorem nearest_sgn_mul (s : Sign) (x : ℚ) : nearest (sgn s * x) = sgn s * nearest x := by
  cases s with
  | negative => simp only [sgn, neg_mul, one_mul, nearest_neg]
  | positive => simp only [sgn, one_mul]

/-- What a float stands for has no more than 53 digits. -/
theorem Denotes.nearest_eq {u : UnpackedFloat} {x : ℚ} (h : Denotes u x) : nearest x = x := by
  cases h with
  | zero s => exact nearest_zero
  | @finite s m e pos normal =>
    rw [nearest_sgn_mul]
    congr 1
    exact nearest_of_digits (m := m) (by exact_mod_cast normal.low) (by exact_mod_cast normal.high)

theorem nearest_natCast {n : ℕ} (h : n < 2 ^ 53) : nearest n = n := by
  rcases Nat.eq_zero_or_pos n with rfl | pos
  · rw [Nat.cast_zero, nearest_zero]
  · have digits : n.log2 ≤ 52 := by
      have := (Nat.log2_lt pos.ne').2 h
      omega
    obtain ⟨missing, total⟩ := Nat.exists_eq_add_of_le digits
    have low : 2 ^ 52 ≤ n * 2 ^ missing := by
      rw [total, pow_add]
      exact Nat.mul_le_mul_right _ (Nat.log2_self_le pos.ne')
    have high : n * 2 ^ missing < 2 ^ 53 := by
      rw [show 53 = n.log2 + 1 + missing by omega, pow_add]
      exact Nat.mul_lt_mul_of_pos_right Nat.lt_log2_self (by positivity)
    have same : (n : ℚ) = ((n * 2 ^ missing : ℕ) : ℤ) * 2 ^ (-missing : ℤ) := by
      rw [zpow_neg, zpow_natCast]
      push_cast
      field_simp
    rw [same]
    exact nearest_of_digits (by exact_mod_cast low) (by exact_mod_cast high)

/-! ## Signs -/

theorem sgn_mul (s t : Sign) : sgn (s * t) = sgn s * sgn t := by
  cases s <;> cases t
  · show (1 : ℚ) = -1 * -1
    norm_num
  · show (-1 : ℚ) = -1 * 1
    norm_num
  · show (-1 : ℚ) = 1 * -1
    norm_num
  · show (1 : ℚ) = 1 * 1
    norm_num

theorem sgn_div (s t : Sign) : sgn (s / t) = sgn s / sgn t := by
  have inv : sgn t = (sgn t)⁻¹ := by cases t <;> norm_num [sgn]
  rw [div_eq_mul_inv, ← inv, ← sgn_mul]
  cases s <;> cases t <;> rfl

theorem sgn_ne_zero (s : Sign) : sgn s ≠ 0 := by
  cases s <;> norm_num [sgn]

theorem abs_sgn_mul (s : Sign) (x : ℚ) : |sgn s * x| = |x| := by
  cases s <;> simp [sgn]

theorem Denotes.abs {u : UnpackedFloat} {x : ℚ} (h : Denotes u x) : Denotes u.abs |x| := by
  cases h with
  | zero s =>
    rw [abs_zero]
    exact .zero .positive
  | @finite s m e pos normal =>
    have magnitude : |sgn s * (m * 2 ^ e)| = sgn .positive * (m * 2 ^ e) := by
      cases s <;> simp [sgn, abs_of_pos normal.value_pos]
    rw [magnitude]
    exact .finite .positive pos normal

/-! ## Comparisons -/

theorem Normal.lt_of_exponent_lt {m m' : ℕ} {e e' : ℤ} (h : Normal m e) (h' : Normal m' e') (lt : e < e') :
    (m * 2 ^ e : ℚ) < m' * 2 ^ e' := by
  calc (m * 2 ^ e : ℚ) < 2 ^ (53 : ℕ) * 2 ^ e :=
        mul_lt_mul_of_pos_right (by exact_mod_cast h.high) (by positivity)
    _ = 2 ^ (52 : ℕ) * 2 ^ (e + 1) := by
        rw [zpow_add_one₀ two_ne_zero]
        ring
    _ ≤ 2 ^ (52 : ℕ) * 2 ^ e' :=
        mul_le_mul_of_nonneg_left (zpow_le_zpow_right₀ one_le_two (by omega)) (by positivity)
    _ ≤ m' * 2 ^ e' := mul_le_mul_of_nonneg_right (by exact_mod_cast h'.low) (by positivity)

/-- Normal numbers are ordered by their exponents first and by their mantissas then. -/
theorem Normal.compare_eq {m m' : ℕ} {e e' : ℤ} (h : Normal m e) (h' : Normal m' e') :
    (compare e e').then (compare m m') = compare (m * 2 ^ e : ℚ) (m' * 2 ^ e') := by
  rcases lt_trichotomy e e' with lt | rfl | gt
  · rw [compare_lt_iff_lt.2 lt, compare_lt_iff_lt.2 (h.lt_of_exponent_lt h' lt)]
    rfl
  · have pos : (0 : ℚ) < 2 ^ e := by positivity
    rw [compare_eq_iff_eq.2 rfl]
    rcases lt_trichotomy m m' with lt | rfl | gt
    · rw [compare_lt_iff_lt.2 lt, compare_lt_iff_lt.2 (mul_lt_mul_of_pos_right (by exact_mod_cast lt) pos)]
      rfl
    · rw [compare_eq_iff_eq.2 rfl, compare_eq_iff_eq.2 rfl]
      rfl
    · rw [compare_gt_iff_gt.2 gt, compare_gt_iff_gt.2 (mul_lt_mul_of_pos_right (by exact_mod_cast gt) pos)]
      rfl
  · rw [compare_gt_iff_gt.2 gt, compare_gt_iff_gt.2 (h'.lt_of_exponent_lt h gt)]
    rfl

/-- Numbers compare as what they denote. -/
theorem Denotes.compare_eq {u v : UnpackedFloat} {x y : ℚ} (h : Denotes u x) (h' : Denotes v y) :
    u.compare v = some (compare x y) := by
  cases h with
  | zero s =>
    cases h' with
    | zero t => exact congrArg some (compare_eq_iff_eq.2 rfl).symm
    | @finite t m e pos normal =>
      have value := normal.value_pos
      cases t with
      | negative => exact congrArg some (compare_gt_iff_gt.2 (by simpa [sgn] using value)).symm
      | positive => exact congrArg some (compare_lt_iff_lt.2 (by simpa [sgn] using value)).symm
  | @finite s m e pos normal =>
    have value := normal.value_pos
    cases h' with
    | zero t =>
      cases s with
      | negative => exact congrArg some (compare_lt_iff_lt.2 (by simpa [sgn] using value)).symm
      | positive => exact congrArg some (compare_gt_iff_gt.2 (by simpa [sgn] using value)).symm
    | @finite t m' e' pos' normal' =>
      have value' := normal'.value_pos
      have order := normal.compare_eq normal'
      cases s <;> cases t <;> simp only [sgn, neg_mul, one_mul]
      · -- Of two negative numbers, the one of the greater magnitude is the lesser one.
        show some ((compare e e').then (compare m m')).swap = _
        rw [order]
        rcases lt_trichotomy (m * 2 ^ e : ℚ) (m' * 2 ^ e') with lt | eq | gt
        · rw [compare_lt_iff_lt.2 lt, compare_gt_iff_gt.2 (neg_lt_neg lt)]
          rfl
        · rw [eq, compare_eq_iff_eq.2 rfl, compare_eq_iff_eq.2 rfl]
          rfl
        · rw [compare_gt_iff_gt.2 gt, compare_lt_iff_lt.2 (neg_lt_neg gt)]
          rfl
      · exact congrArg some (compare_lt_iff_lt.2 (by linarith)).symm
      · exact congrArg some (compare_gt_iff_gt.2 (by linarith)).symm
      · exact congrArg some order

/-! ## Operations on unpacked numbers -/

/-- A number that is rounded to zero or to a normal number. -/
def Fits (x : ℚ) : Prop := x ≠ 0 → InRange |x|

theorem Fits.magnitude {s : Sign} {x : ℚ} (h : Fits (sgn s * x)) (pos : 0 < x) : InRange x := by
  have range := h (mul_ne_zero (sgn_ne_zero s) pos.ne')
  rwa [abs_sgn_mul, abs_of_pos pos] at range

/-- A product is rounded to the nearest number. -/
theorem denotes_mul {u v : UnpackedFloat} {x y : ℚ} (h : Denotes u x) (h' : Denotes v y) (fits : Fits (x * y)) :
    Denotes (UnpackedFloat.mul binary64 u v) (nearest (x * y)) := by
  cases h with
  | zero s =>
    rw [zero_mul, nearest_zero]
    cases h' with
    | zero t => exact .zero _
    | finite t pos normal => exact .zero _
  | @finite s m e pos normal =>
    cases h' with
    | zero t =>
      rw [mul_zero, nearest_zero]
      exact .zero _
    | @finite t m' e' pos' normal' =>
      have value : sgn s * (m * 2 ^ e) * (sgn t * (m' * 2 ^ e')) = sgn (s * t) * ((m * m' : ℕ) * 2 ^ (e + e')) := by
        rw [sgn_mul, zpow_add₀ two_ne_zero]
        push_cast
        ring
      have size : (0 : ℚ) < (m * m' : ℕ) * 2 ^ (e + e') := by positivity
      have digits : 2 ^ 52 ≤ m * m' := normal.low.trans (Nat.le_mul_of_pos_right m pos')
      rw [value] at fits ⊢
      rw [nearest_sgn_mul]
      exact denotes_roundWithAccuracy _ (.exact _) digits (fits.magnitude size)

theorem Normal.quotient_lt {m m' : ℕ} {e e' : ℤ} (h : Normal m e) (h' : Normal m' e') :
    (m * 2 ^ e / (m' * 2 ^ e') : ℚ) < 2 ^ (e - e' + 1) := by
  rw [div_lt_iff₀ h'.value_pos]
  calc (m * 2 ^ e : ℚ) < 2 ^ 53 * 2 ^ e := mul_lt_mul_of_pos_right (by exact_mod_cast h.high) (by positivity)
    _ = 2 ^ (e - e' + 1) * (2 ^ 52 * 2 ^ e') := by
        rw [zpow_add_one₀ two_ne_zero, zpow_sub₀ two_ne_zero]
        field_simp
    _ ≤ 2 ^ (e - e' + 1) * (m' * 2 ^ e') :=
        mul_le_mul_of_nonneg_left (mul_le_mul_of_nonneg_right (by exact_mod_cast h'.low) (by positivity))
          (by positivity)

/-- The digits of a quotient, and whether there are more. -/
theorem divCore_eq {m m' : ℕ} {e e' : ℤ} (h : Normal m e) (h' : Normal m' e') (exponents : -1021 ≤ e - e') :
    divCore binary64 m e m' e' =
      (m * 2 ^ 53 / m', e - e' - 53, accuracyOfFraction (m * 2 ^ 53 % m') m') := by
  have target : min (e - e') (binary64.targetExponent (totalExponent m e - totalExponent m' e')) = e - e' - 53 := by
    rw [targetExponent_eq, totalExponent, totalExponent, h.log2_eq, h'.log2_eq]
    omega
  have shift : (e - e' - (e - e' - 53)).toNat = 53 := by omega
  unfold divCore
  dsimp only
  rw [target, shift, Nat.shiftLeft_eq]

/-- The quotient of two mantissas has at least 53 digits if 53 more digits are had from the dividend. -/
theorem denotes_divCore {m m' : ℕ} {e e' : ℤ} (h : Normal m e) (h' : Normal m' e') (s : Sign)
    (range : InRange (m * 2 ^ e / (m' * 2 ^ e'))) :
    Denotes (roundWithAccuracy binary64 s (divCore binary64 m e m' e').1 (divCore binary64 m e m' e').2.1
      (divCore binary64 m e m' e').2.2) (sgn s * nearest (m * 2 ^ e / (m' * 2 ^ e'))) := by
  have exponents := two_zpow_lt (range.low.trans_lt (h.quotient_lt h'))
  have digits : 2 ^ 52 ≤ m * 2 ^ 53 / m' := by
    rw [Nat.le_div_iff_mul_le h'.pos]
    exact Nat.mul_le_mul h.low h'.high.le
  have marks := marks_of_fraction (m * 2 ^ 53 / m') (Nat.mod_lt (m * 2 ^ 53) h'.pos)
  rw [← natCast_div_eq _ h'.pos] at marks
  have value : (m * 2 ^ e / (m' * 2 ^ e') : ℚ) = ((m * 2 ^ 53 : ℕ) / m' : ℚ) * 2 ^ (e - e' - 53) := by
    have pos : (0 : ℚ) < m' := by exact_mod_cast h'.pos
    rw [zpow_sub₀ two_ne_zero, zpow_sub₀ two_ne_zero]
    push_cast
    field_simp
  rw [value] at range ⊢
  rw [divCore_eq h h' (by omega)]
  exact denotes_roundWithAccuracy s marks digits range

/-- A quotient is rounded to the nearest number. -/
theorem denotes_div {u v : UnpackedFloat} {x y : ℚ} (h : Denotes u x) (h' : Denotes v y) (nonzero : y ≠ 0)
    (fits : Fits (x / y)) : Denotes (UnpackedFloat.div binary64 u v) (nearest (x / y)) := by
  cases h' with
  | zero t => exact absurd rfl nonzero
  | @finite t m' e' pos' normal' =>
    cases h with
    | zero s =>
      rw [zero_div, nearest_zero]
      exact .zero _
    | @finite s m e pos normal =>
      have value : sgn s * (m * 2 ^ e) / (sgn t * (m' * 2 ^ e')) = sgn (s / t) * (m * 2 ^ e / (m' * 2 ^ e')) := by
        rw [sgn_div, mul_div_mul_comm]
      have size : (0 : ℚ) < m * 2 ^ e / (m' * 2 ^ e') := div_pos normal.value_pos normal'.value_pos
      rw [value] at fits ⊢
      rw [nearest_sgn_mul]
      have range := fits.magnitude size
      exact denotes_divCore normal normal' (s / t) range

theorem sgn_neg (s : Sign) : sgn (-s) = -sgn s := by
  cases s
  · exact (neg_neg 1).symm
  · rfl

theorem cast_apply (s : Sign) (k : ℕ) : ((s.apply k : ℤ) : ℚ) = sgn s * k := by
  cases s <;> simp [Sign.apply, sgn]

theorem value_decreaseExponent (m : ℕ) {e f : ℤ} (le : f ≤ e) :
    ((decreaseExponent m e f).1 : ℚ) * 2 ^ f = m * 2 ^ e := by
  obtain ⟨shift, rfl⟩ : ∃ shift : ℕ, e = f + shift := ⟨(e - f).toNat, by omega⟩
  unfold decreaseExponent
  dsimp only
  rw [add_sub_cancel_left, Int.toNat_natCast, Nat.shiftLeft_eq, zpow_add₀ two_ne_zero, zpow_natCast]
  push_cast
  ring

/-- A difference is rounded to the nearest number. -/
theorem denotes_sub {u v : UnpackedFloat} {x y : ℚ} (h : Denotes u x) (h' : Denotes v y) (fits : Fits (x - y)) :
    Denotes (UnpackedFloat.sub binary64 u v) (nearest (x - y)) := by
  cases h with
  | zero s =>
    cases h' with
    | zero t =>
      rw [sub_zero, nearest_zero]
      unfold UnpackedFloat.sub
      dsimp only
      split
      · exact .zero s
      · exact .zero .positive
    | @finite t m' e' pos' normal' =>
      have opposite := Denotes.finite (-t) pos' normal'
      rw [sgn_neg, neg_mul, ← zero_sub] at opposite
      rw [opposite.nearest_eq]
      exact opposite
  | @finite s m e pos normal =>
    have kept := Denotes.finite s pos normal
    cases h' with
    | zero t =>
      rw [sub_zero, kept.nearest_eq]
      exact kept
    | @finite t m' e' pos' normal' =>
      -- Both are multiples of the smaller of their units, and so is the difference.
      set f := min e e' with f_def
      set k : ℤ := s.apply (decreaseExponent m e f).1 - t.apply (decreaseExponent m' e' f).1 with k_def
      have value : sgn s * (m * 2 ^ e) - sgn t * (m' * 2 ^ e') = k * 2 ^ f := by
        rw [k_def, Int.cast_sub, cast_apply, cast_apply, ← value_decreaseExponent m (min_le_left e e'),
          ← value_decreaseExponent m' (min_le_right e e')]
        ring
      rw [value] at fits ⊢
      refine denotes_normalize fun nonzero => ?_
      have range := fits (mul_ne_zero (by exact_mod_cast nonzero) (by positivity))
      rwa [abs_mul, abs_of_pos (show (0 : ℚ) < 2 ^ f by positivity)] at range

/-! ## Operations on floats -/

/-- The number that a float stands for. -/
def Is (a : Float) (x : ℚ) : Prop := Denotes a.toModel.unpack x

namespace Is

variable {a b : Float} {x y : ℚ}

/-- What is packed is what is denoted. -/
theorem of_pack {u : UnpackedFloat} (h : Denotes u x) : Is (.ofModel (.pack u)) x := by
  unfold Is
  rw [unpack_pack h]
  exact h

theorem mul (h : Is a x) (h' : Is b y) (fits : Fits (x * y)) : Is (a * b) (nearest (x * y)) :=
  of_pack (denotes_mul h h' fits)

theorem div (h : Is a x) (h' : Is b y) (nonzero : y ≠ 0) (fits : Fits (x / y)) : Is (a / b) (nearest (x / y)) :=
  of_pack (denotes_div h h' nonzero fits)

theorem sub (h : Is a x) (h' : Is b y) (fits : Fits (x - y)) : Is (a - b) (nearest (x - y)) :=
  of_pack (denotes_sub h h' fits)

theorem abs (h : Is a x) : Is a.abs |x| :=
  of_pack (Denotes.abs h)

theorem le_iff (h : Is a x) (h' : Is b y) : a ≤ b ↔ x ≤ y := by
  have order := Denotes.compare_eq h h'
  have unfolded : a ≤ b ↔ (a.toModel.unpack.compare b.toModel.unpack).any (·.isLE) = true := by
    exact decide_eq_true_iff
  rw [unfolded, order]
  rcases lt_trichotomy x y with lt | rfl | gt
  · rw [compare_lt_iff_lt.2 lt]
    simpa using lt.le
  · rw [compare_eq_iff_eq.2 rfl]
    simp
  · rw [compare_gt_iff_gt.2 gt]
    simpa using gt

end Is

/-- A positive number between powers of two that are not too far off. -/
theorem Fits.of_powers {x : ℚ} {i j : ℤ} (low : 2 ^ i ≤ x) (high : x < 2 ^ j) (i_low : -1000 ≤ i)
    (j_high : j ≤ 1000) : Fits x := by
  intro _
  rw [abs_of_pos (lt_of_lt_of_le (by positivity) low)]
  exact .of_powers low high i_low j_high

/-- Whole numbers of up to 53 digits are not rounded. -/
theorem is_ofNat {n : ℕ} (h : n < 2 ^ 53) : Is (Float.ofNat n) n := by
  have fits : Fits n := by
    intro nonzero
    have low : (2 : ℚ) ^ (0 : ℤ) ≤ n := by
      exact_mod_cast Nat.one_le_iff_ne_zero.2 (by exact_mod_cast nonzero)
    have high : (n : ℚ) < 2 ^ (53 : ℤ) := by exact_mod_cast h
    exact Fits.of_powers low high (by norm_num) (by norm_num) nonzero
  have converted : Is n.toUInt64.toFloat n := by
    have word : n.toUInt64.toNat = n := by
      rw [Nat.toUInt64_eq, UInt64.toNat_ofNat']
      omega
    have normalized := denotes_normalize (k := n) (e := 0) fun nonzero => by
      simpa using fits (by exact_mod_cast nonzero)
    rw [Int.cast_natCast, zpow_zero, mul_one, nearest_natCast h] at normalized
    refine Is.of_pack (u := UnpackedFloat.ofUInt64 binary64 n.toUInt64) ?_
    show Denotes (UnpackedFloat.normalize binary64 n.toUInt64.toNat 0 .positive) n
    rw [word]
    exact normalized
  have one : Is (Float.ofBits 0x3FF0000000000000) 1 := by
    have digits : Normal (2 ^ 52) (-52) := ⟨le_rfl, by norm_num, by norm_num, by norm_num⟩
    have denotes := Denotes.finite .positive (by norm_num) digits
    have value : sgn .positive * ((2 ^ 52 : ℕ) * 2 ^ (-52 : ℤ)) = 1 := by
      norm_num [sgn]
    rw [value] at denotes
    exact denotes
  -- A literal is a mantissa times a power of ten, and that power is one here.
  have scaled : Float.ofNat n = n.toUInt64.toFloat * Float.ofBits 0x3FF0000000000000 := by
    show Float.ofScientific n false 0 = _
    unfold Float.ofScientific
    rw [dif_pos ⟨h, by norm_num⟩]
    rfl
  have product := converted.mul one (by rwa [mul_one])
  rw [mul_one, nearest_natCast h] at product
  exact scaled ▸ product

end Double

end Camcorder

import Mathlib
import Camcorder.Proofs.Double.Rounding

/-!
# What a number in double precision stands for

`Denotes` relates the unpacked form of a number to the rational number that it stands for; subnormal numbers are left
out. Rounding what is known of a result to its last digit comes to `nearest` (`denotes_roundWithAccuracy`,
`denotes_normalize`), and what was rounded is unpacked as it was packed (`unpack_pack`).
-/

namespace Camcorder

namespace Double

open Float.Model Float.Model.Format Float.Model.UnpackedFloat

/-! ## Residual bits -/

/-- The number whose binary digits begin with a mantissa and go on as its residual bits say. -/
def Marks (em : ExtendedMantissa) (x : ℚ) : Prop :=
  let low : ℚ := em.mantissa + if em.roundBit then 1 / 2 else 0
  if em.stickyBit then low < x ∧ x < low + 1 / 2 else x = low

theorem marks_iff (m : ℕ) (round sticky : Bool) (x : ℚ) : Marks ⟨m, round, sticky⟩ x ↔
    if sticky then (m + if round then 1 / 2 else 0 : ℚ) < x ∧ x < (m + if round then 1 / 2 else 0) + 1 / 2
    else x = m + if round then 1 / 2 else 0 :=
  Iff.rfl

theorem Marks.mantissa_le {em : ExtendedMantissa} {x : ℚ} (h : Marks em x) :
    (em.mantissa : ℚ) ≤ x ∧ x < em.mantissa + 1 := by
  rcases em with ⟨m, _ | _, _ | _⟩ <;> simp only [Marks, Bool.false_eq_true, if_true, if_false] at h
  · constructor <;> linarith
  · constructor <;> linarith
  · constructor <;> linarith
  · constructor <;> linarith

theorem mantissa_ofMantissaAndAccuracy (m : ℕ) (acc : Accuracy) :
    (ExtendedMantissa.ofMantissaAndAccuracy m acc).mantissa = m := by
  rcases acc with _ | (_ | _ | _) <;> rfl

/-- A mantissa with nothing behind it marks itself. -/
theorem Marks.exact (m : ℕ) : Marks (.ofMantissaAndAccuracy m .exact) m := by
  simp [Marks, ExtendedMantissa.ofMantissaAndAccuracy]

/-- The residual bits of a quotient. -/
theorem marks_of_fraction (m : ℕ) {num den : ℕ} (h : num < den) :
    Marks (.ofMantissaAndAccuracy m (accuracyOfFraction num den)) (m + num / den) := by
  have pos : (0 : ℚ) < den := by exact_mod_cast (Nat.zero_le num).trans_lt h
  unfold accuracyOfFraction
  split
  · rename_i zero
    rw [zero, Nat.cast_zero, zero_div, add_zero]
    exact .exact m
  · rename_i some
    have num_pos : (0 : ℚ) < num / den := by
      have : (0 : ℚ) < num := by exact_mod_cast Nat.pos_of_ne_zero some
      positivity
    have lt_one : (num : ℚ) / den < 1 := (div_lt_one pos).2 (by exact_mod_cast h)
    cases order : compare (2 * num) den with
    | lt =>
      have : (num : ℚ) / den < 1 / 2 := by
        have : (2 * num : ℚ) < den := by exact_mod_cast compare_lt_iff_lt.1 order
        rw [div_lt_div_iff₀ pos two_pos]
        linarith
      simp only [Marks, ExtendedMantissa.ofMantissaAndAccuracy, Bool.false_eq_true, if_true, if_false]
      constructor <;> linarith
    | eq =>
      have : (num : ℚ) / den = 1 / 2 := by
        have : (2 * num : ℚ) = den := by exact_mod_cast compare_eq_iff_eq.1 order
        rw [div_eq_div_iff pos.ne' two_ne_zero]
        linarith
      simp only [Marks, ExtendedMantissa.ofMantissaAndAccuracy, Bool.false_eq_true, if_true, if_false]
      linarith
    | gt =>
      have : (1 : ℚ) / 2 < num / den := by
        have : (den : ℚ) < 2 * num := by exact_mod_cast compare_gt_iff_gt.1 order
        rw [div_lt_div_iff₀ two_pos pos]
        linarith
      simp only [Marks, ExtendedMantissa.ofMantissaAndAccuracy, if_true]
      constructor <;> linarith

/-- Shifted by one digit, a mark is that of half the number. -/
theorem Marks.shiftRightOne {em : ExtendedMantissa} {x : ℚ} (h : Marks em x) : Marks em.shiftRightOne (x / 2) := by
  -- The digit that is dropped is the next round bit, and the round bit is left in the sticky one.
  have low : ((em.mantissa / 2 : ℕ) : ℚ) + (if em.mantissa % 2 != 0 then 1 / 2 else 0) = em.mantissa / 2 := by
    have whole : (2 * (em.mantissa / 2 : ℕ) + (em.mantissa % 2 : ℕ) : ℚ) = em.mantissa := by
      exact_mod_cast Nat.div_add_mod em.mantissa 2
    rcases Nat.mod_two_eq_zero_or_one em.mantissa with even | odd
    · rw [even] at whole ⊢
      simp only [bne_self_eq_false, Bool.false_eq_true, if_false]
      push_cast at whole
      linarith
    · rw [odd] at whole ⊢
      simp only [bne_iff_ne, ne_eq, one_ne_zero, not_false_eq_true, if_true]
      push_cast at whole
      linarith
  have within := h.mantissa_le
  rcases em with ⟨m, round, sticky⟩
  dsimp only at low within
  show Marks ⟨m / 2, m % 2 != 0, round || sticky⟩ (x / 2)
  rw [marks_iff] at h ⊢
  rw [low]
  cases round <;> cases sticky <;>
    simp only [Bool.or_false, Bool.or_true, Bool.false_eq_true, if_true, if_false] at h ⊢
  · linarith
  · constructor <;> linarith
  · constructor <;> linarith
  · constructor <;> linarith

/-- Shifted by several digits, it is that of the number divided by their power. -/
theorem Marks.shiftRight {em : ExtendedMantissa} {x : ℚ} (h : Marks em x) (n : ℕ) : Marks (em >>> n) (x / 2 ^ n) := by
  change Marks (n.repeat ExtendedMantissa.shiftRightOne em) _
  induction n with
  | zero => simpa [Nat.repeat] using h
  | succ n ih =>
    rw [Nat.repeat, pow_succ, div_mul_eq_div_div]
    exact ih.shiftRightOne

/-- A marked number is rounded to even. -/
theorem Marks.roundedMantissa_eq {em : ExtendedMantissa} {x : ℚ} (h : Marks em x) :
    (em.roundedMantissa : ℤ) = toEven x := by
  symm
  rcases em with ⟨m, _ | _, _ | _⟩ <;> simp only [Marks, Bool.false_eq_true, if_true, if_false] at h <;>
    simp only [ExtendedMantissa.roundedMantissa, ExtendedMantissa.accuracy, Accuracy.roundToNearestEven]
  · apply toEven_eq_of_lt <;> push_cast <;> linarith
  · apply toEven_eq_of_lt <;> push_cast <;> linarith
  · -- A tie, which goes to the even neighbour.
    apply IsNearest.toEven_eq
    right
    rw [h, abs_eq (by norm_num)]
    rcases Nat.mod_two_eq_zero_or_one m with even | odd
    · rw [even]
      refine ⟨.inl ?_, by exact_mod_cast Nat.even_iff.2 even⟩
      push_cast
      ring
    · rw [odd]
      refine ⟨.inr ?_, by exact_mod_cast Nat.even_iff.2 (by omega)⟩
      push_cast
      ring
  · apply toEven_eq_of_lt <;> push_cast <;> linarith

/-! ## Values -/

/-- The factor that a sign stands for. -/
def sgn : Sign → ℚ
  | .negative => -1
  | .positive => 1

/-- A mantissa of 53 digits with an exponent that fits. -/
structure Normal (m : ℕ) (e : ℤ) : Prop where
  low : 2 ^ 52 ≤ m
  high : m < 2 ^ 53
  exponent_low : -1074 ≤ e
  exponent_high : e ≤ 971

namespace Normal

variable {m : ℕ} {e : ℤ}

theorem pos (h : Normal m e) : 0 < m := by
  have low := h.low
  omega

theorem log2_eq (h : Normal m e) : m.log2 = 52 := (Nat.log2_eq_iff h.pos.ne').2 ⟨h.low, h.high⟩

theorem value_pos (h : Normal m e) : (0 : ℚ) < m * 2 ^ e := by
  have pos : (0 : ℚ) < m := by exact_mod_cast h.pos
  positivity

end Normal

/-- The number that an unpacked float stands for, if it is zero or a normal number. -/
inductive Denotes : UnpackedFloat → ℚ → Prop where
  | zero (s : Sign) : Denotes (.zero s) 0
  | finite (s : Sign) {m : ℕ} {e : ℤ} (pos : 0 < m) (normal : Normal m e) :
      Denotes (.finite s m e pos) (sgn s * (m * 2 ^ e))

/-- Numbers well within the range of the normal ones. -/
structure InRange (x : ℚ) : Prop where
  low : 2 ^ (-1000 : ℤ) ≤ x
  high : x < 2 ^ (1000 : ℤ)

theorem InRange.of_powers {x : ℚ} {i j : ℤ} (low : 2 ^ i ≤ x) (high : x < 2 ^ j) (i_low : -1000 ≤ i)
    (j_high : j ≤ 1000) : InRange x where
  low := (zpow_le_zpow_right₀ one_le_two i_low).trans low
  high := high.trans_le (zpow_le_zpow_right₀ one_le_two j_high)

theorem targetExponent_eq (t : ℤ) : binary64.targetExponent t = max (t - 53) (-1074) := rfl

/-- Digits that are too many are dropped. -/
theorem shiftToTargetExponent_eq {m k : ℕ} {e : ℤ} (acc : Accuracy) (digits : m.log2 = 52 + k) (low : -1074 ≤ e + k) :
    shiftToTargetExponent binary64 m e acc = (ExtendedMantissa.ofMantissaAndAccuracy m acc >>> k, e + k) := by
  have target : binary64.targetExponent (totalExponent m e) = e + k := by
    rw [targetExponent_eq, totalExponent, digits]
    push_cast
    omega
  unfold shiftToTargetExponent shiftToExponent
  dsimp only
  rw [target, add_sub_cancel_left, Int.toNat_natCast]

theorem two_zpow_lt {i j : ℤ} (h : (2 : ℚ) ^ i < 2 ^ j) : i < j := (zpow_lt_zpow_iff_right₀ one_lt_two).1 h

/-- Where the leading digit of a number stands, if all but 53 of its digits are dropped. -/
theorem InRange.exponent {y : ℚ} {e : ℤ} (range : InRange (y * 2 ^ e)) (low : 2 ^ 52 ≤ y) (high : y < 2 ^ 53) :
    -1074 ≤ e ∧ e ≤ 970 := by
  have pos : (0 : ℚ) < 2 ^ e := by positivity
  have top : y * 2 ^ e < 2 ^ (53 + e) := by
    rw [zpow_add₀ two_ne_zero]
    exact mul_lt_mul_of_pos_right high pos
  have bottom : 2 ^ (52 + e) ≤ y * 2 ^ e := by
    rw [zpow_add₀ two_ne_zero]
    exact mul_le_mul_of_nonneg_right low pos.le
  have := two_zpow_lt (range.low.trans_lt top)
  have := two_zpow_lt (bottom.trans_lt range.high)
  omega

/-- Rounding the mantissa may bring it to one digit too many, all of them zero but the first; then one is dropped. -/
theorem denotes_rounded (s : Sign) {r : ℕ} {e : ℤ} (low : 2 ^ 52 ≤ r) (high : r ≤ 2 ^ 53) (exponent_low : -1074 ≤ e)
    (exponent_high : e ≤ 970) :
    ∃ m e' pos, shiftToTargetExponent binary64 r e .exact = (⟨m, false, false⟩, e') ∧
      Denotes (.finite s m e' pos) (sgn s * (r * 2 ^ e)) := by
  rcases high.lt_or_eq with fits | rfl
  · have digits : r.log2 = 52 + 0 := (Nat.log2_eq_iff (by omega)).2 ⟨low, fits⟩
    refine ⟨r, e, by omega, ?_, .finite s _ ⟨low, fits, exponent_low, by omega⟩⟩
    rw [shiftToTargetExponent_eq .exact digits (by omega)]
    simp [ExtendedMantissa.ofMantissaAndAccuracy, HShiftRight.hShiftRight, Nat.repeat]
  · have digits : (2 ^ 53).log2 = 52 + 1 := Nat.log2_two_pow
    have halved : (2 ^ 53 : ℕ) * (2 : ℚ) ^ e = (2 ^ 52 : ℕ) * 2 ^ (e + 1) := by
      rw [zpow_add_one₀ two_ne_zero]
      push_cast
      ring
    rw [halved, shiftToTargetExponent_eq .exact digits (by omega)]
    exact ⟨2 ^ 52, e + 1, by norm_num, rfl, .finite s _ ⟨le_rfl, by norm_num, by omega, by omega⟩⟩

/-- Rounding a number of which enough digits are known. -/
theorem denotes_roundWithAccuracy (s : Sign) {m : ℕ} {e : ℤ} {acc : Accuracy} {x : ℚ}
    (marks : Marks (.ofMantissaAndAccuracy m acc) x) (digits : 2 ^ 52 ≤ m) (range : InRange (x * 2 ^ e)) :
    Denotes (roundWithAccuracy binary64 s m e acc) (sgn s * nearest (x * 2 ^ e)) := by
  obtain ⟨k, log⟩ : ∃ k, m.log2 = 52 + k := Nat.exists_eq_add_of_le ((Nat.le_log2 (by omega)).2 digits)
  have bottom : 2 ^ 52 * 2 ^ k ≤ m := by
    rw [← pow_add, ← log]
    exact Nat.log2_self_le (by omega)
  have top : m + 1 ≤ 2 ^ 53 * 2 ^ k := by
    rw [← pow_add, show 53 + k = m.log2 + 1 by omega]
    exact Nat.lt_log2_self
  obtain ⟨above, below⟩ := marks.mantissa_le
  rw [mantissa_ofMantissaAndAccuracy] at above below
  have low : 2 ^ 52 ≤ x / 2 ^ k := by
    rw [le_div_iff₀ (by positivity)]
    exact le_trans (by exact_mod_cast bottom) above
  have high : x / 2 ^ k < 2 ^ 53 := by
    rw [div_lt_iff₀ (by positivity)]
    exact below.trans_le (by exact_mod_cast top)
  have shifted : x * 2 ^ e = x / 2 ^ k * 2 ^ (e + k) := by
    rw [zpow_add₀ two_ne_zero, zpow_natCast]
    field_simp
  rw [shifted] at range ⊢
  obtain ⟨exponent_low, exponent_high⟩ := range.exponent low high
  have rounded := (marks.shiftRight k).roundedMantissa_eq
  set r := (ExtendedMantissa.ofMantissaAndAccuracy m acc >>> k).roundedMantissa with r_def
  have value : nearest (x / 2 ^ k * 2 ^ (e + k)) = r * 2 ^ (e + k) := by
    rw [nearest_eq low high, ← rounded, Int.cast_natCast]
  have r_low : 2 ^ 52 ≤ r := by
    have : ((2 ^ 52 : ℕ) : ℤ) ≤ toEven (x / 2 ^ k) := le_toEven (by exact_mod_cast low)
    omega
  have r_high : r ≤ 2 ^ 53 := by
    have : toEven (x / 2 ^ k) ≤ ((2 ^ 53 : ℕ) : ℤ) := toEven_le (by exact_mod_cast high.le)
    omega
  obtain ⟨m', e', pos, shortened, denotes⟩ := denotes_rounded s r_low r_high exponent_low exponent_high
  rw [value]
  unfold roundWithAccuracy
  rw [shiftToTargetExponent_eq acc log exponent_low]
  dsimp only
  rw [← r_def, shortened]
  dsimp only
  rw [dif_neg pos.ne']
  exact denotes

/-- Rounding a number that is known exactly. -/
theorem denotes_round (s : Sign) {m : ℕ} {e : ℤ} (pos : 0 < m) (range : InRange (m * 2 ^ e)) :
    Denotes (UnpackedFloat.round binary64 s m e) (sgn s * nearest (m * 2 ^ e)) := by
  have top : (m : ℚ) * 2 ^ e < 2 ^ ((m.log2 + 1 : ℕ) + e : ℤ) := by
    rw [zpow_add₀ two_ne_zero, zpow_natCast]
    exact mul_lt_mul_of_pos_right (by exact_mod_cast Nat.lt_log2_self) (by positivity)
  have exponent_low := two_zpow_lt (range.low.trans_lt top)
  push_cast at exponent_low
  -- The digits that are missing are supplied by zeros.
  set missing := 52 - m.log2 with missing_def
  have target : (e - binary64.targetExponent (totalExponent m e)).toNat = missing := by
    rw [targetExponent_eq, totalExponent]
    omega
  have same : (m : ℚ) * 2 ^ e = (m <<< missing : ℕ) * 2 ^ (e - missing) := by
    rw [Nat.shiftLeft_eq, zpow_sub₀ two_ne_zero, zpow_natCast]
    push_cast
    field_simp
  have digits : 2 ^ 52 ≤ m <<< missing := by
    rw [Nat.shiftLeft_eq]
    calc 2 ^ 52 ≤ 2 ^ (m.log2 + missing) := Nat.pow_le_pow_right two_pos (by omega)
      _ = 2 ^ m.log2 * 2 ^ missing := pow_add ..
      _ ≤ m * 2 ^ missing := Nat.mul_le_mul_right _ (Nat.log2_self_le pos.ne')
  rw [same] at range ⊢
  unfold UnpackedFloat.round decreaseExponent
  dsimp only
  rw [target]
  exact denotes_roundWithAccuracy s (.exact _) digits range

/-- Rounding a whole multiple of a power of two. -/
theorem denotes_normalize {k e : ℤ} (range : k ≠ 0 → InRange (|(k : ℚ)| * 2 ^ e)) :
    Denotes (UnpackedFloat.normalize binary64 k e .positive) (nearest (k * 2 ^ e)) := by
  unfold UnpackedFloat.normalize
  cases order : compare k 0 with
  | lt =>
    have negative : k < 0 := compare_lt_iff_lt.1 order
    obtain ⟨m, rfl⟩ : ∃ m : ℕ, k = -m := ⟨(-k).toNat, by omega⟩
    have rounded := denotes_round .negative (m := m) (e := e) (by omega) (by simpa using range negative.ne)
    have value : nearest (((-m : ℤ) : ℚ) * 2 ^ e) = sgn .negative * nearest (m * 2 ^ e) := by
      rw [show ((-m : ℤ) : ℚ) * 2 ^ e = -(m * 2 ^ e) by push_cast; ring, nearest_neg]
      unfold sgn
      ring
    rw [value]
    simpa using rounded
  | eq =>
    rw [compare_eq_iff_eq.1 order, Int.cast_zero, zero_mul, nearest_zero]
    exact .zero .positive
  | gt =>
    have positive : 0 < k := compare_gt_iff_gt.1 order
    obtain ⟨m, rfl⟩ : ∃ m : ℕ, k = m := ⟨k.toNat, by omega⟩
    have rounded := denotes_round .positive (m := m) (e := e) (by omega) (by simpa using range positive.ne')
    have value : nearest (((m : ℤ) : ℚ) * 2 ^ e) = sgn .positive * nearest (m * 2 ^ e) := by
      unfold sgn
      rw [Int.cast_natCast, one_mul]
    rw [value]
    simpa using rounded

/-! ## Bits -/

theorem ofBitVec_unpackSign {spec : Format} {s : Sign} {exponent : BitVec spec.exponentBits}
    {mantissa : BitVec spec.mantissaBitsWithoutImplicit} :
    Sign.ofBitVec (unpackSign (packComponents spec s exponent mantissa)) = s := by
  have bit : unpackSign (packComponents spec s exponent mantissa) = s.toBitVec := by
    ext i hi
    obtain rfl : i = 0 := by omega
    simp [unpackSign, packComponents, BitVec.getLsbD_append, BitVec.getElem_append]
  rw [bit]
  cases s <;> rfl

/-- What is packed can be unpacked. -/
theorem unpack_packComponents (spec : Format) (s : Sign) {exponent : BitVec spec.exponentBits}
    (mantissa : BitVec spec.mantissaBitsWithoutImplicit) (h : exponent ≠ -1#_) (h' : exponent ≠ 0#_) :
    ∃ pos, UnpackedFloat.unpack spec (packComponents spec s exponent mantissa) =
      .finite s (1#1 ++ mantissa).toNat (exponent.toNat - (spec.exponentBias + spec.mantissaBitsWithoutImplicit))
        pos := by
  refine ⟨by simp, ?_⟩
  unfold UnpackedFloat.unpack
  simp only [unpackMantissa_packComponents, unpackExponent_packComponents, ofBitVec_unpackSign, h, h', if_false]

theorem toNat_implicit {m : ℕ} (low : 2 ^ 52 ≤ m) (high : m < 2 ^ 53) : (1#1 ++ BitVec.ofNat 52 m).toNat = m := by
  rw [BitVec.toNat_append, ← Nat.shiftLeft_add_eq_or_of_lt (BitVec.isLt _), BitVec.toNat_ofNat, Nat.shiftLeft_eq]
  show 1 * 2 ^ 52 + m % 2 ^ 52 = m
  omega

/-- What stands for a number is unpacked as it was packed. -/
theorem unpack_pack {u : UnpackedFloat} {x : ℚ} (h : Denotes u x) : (Float.Model.pack u).unpack = u := by
  cases h with
  | zero s => cases s <;> rfl
  | @finite s m e pos normal =>
    have digits := normal.log2_eq
    obtain ⟨low, high, exponent_low, exponent_high⟩ := normal
    set biased := (e + 1023 + 52).toNat with biased_def
    have field : (BitVec.ofNat 11 biased).toNat = biased := by
      rw [BitVec.toNat_ofNat]
      omega
    have packed : UnpackedFloat.pack binary64 (.finite s m e pos) =
        packComponents binary64 s (BitVec.ofNat 11 biased) (BitVec.ofNat 52 m) := by
      unfold UnpackedFloat.pack
      show (if 2 ^ 11 ≤ biased + 1 then _ else if m.log2 + 1 = 53 then _ else _) = _
      rw [if_neg (by omega), if_pos (by omega)]
      rfl
    have not_all_ones : BitVec.ofNat 11 biased ≠ -1#11 := by
      intro h
      have : biased = 2047 := field.symm.trans (congrArg BitVec.toNat h)
      omega
    have not_zero : BitVec.ofNat 11 biased ≠ 0#11 := by
      intro h
      have : biased = 0 := field.symm.trans (congrArg BitVec.toNat h)
      omega
    obtain ⟨_, unpacked⟩ := unpack_packComponents binary64 s (BitVec.ofNat 52 m) not_all_ones not_zero
    show UnpackedFloat.unpack binary64 (UnpackedFloat.pack binary64 (.finite s m e pos)) = _
    rw [packed, unpacked]
    congr 1
    · exact toNat_implicit low high
    · rw [field]
      show (biased : ℤ) - (1023 + 52) = e
      omega

end Double

end Camcorder

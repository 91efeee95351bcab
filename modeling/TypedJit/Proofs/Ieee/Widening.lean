import Mathlib
import TypedJit.Ieee.Convert

/-!
Widening a single to a double is exact.
-/

namespace TypedJit.Ieee.Format

/-! ## Doubles by their fields -/

@[simp] theorem binary64_hidden : binary64.hidden = 2 ^ 52 := rfl
@[simp] theorem binary64_expField : binary64.expField = 2047 := rfl
@[simp] theorem binary64_bias : binary64.bias = 1023 := rfl
@[simp] theorem binary64_minScale : binary64.minScale = -1074 := by decide
@[simp] theorem binary64_maxScale : binary64.maxScale = 971 := by decide
@[simp] theorem binary64_fracBits : binary64.fracBits = 52 := rfl

/-- The magnitude `m * 2 ^ s` truncated toward zero. -/
def truncScaled (m : Nat) (s : Int) : Nat := if 0 ≤ s then m * 2 ^ s.toNat else m / 2 ^ (-s).toNat

@[simp] theorem truncScaled_zero (s : Int) : truncScaled 0 s = 0 := by
  simp [truncScaled]

theorem truncate_eq (f : Format) (w : Nat) :
    f.truncate w = if f.isFinite w then
      some (if f.negative w then -(truncScaled (f.significand w) (f.scale w) : Int)
        else truncScaled (f.significand w) (f.scale w))
    else none := rfl

/-- A double word with sign `neg`, exponent field `e` and fraction field `F`. -/
structure Fields64 (w : Nat) (neg : Bool) (e F : Nat) : Prop where
  exp_lt : e < 2048
  frac_lt : F < 2 ^ 52
  eq : w = binary64.zero neg + e * 2 ^ 52 + F

namespace Fields64

variable {w : Nat} {neg : Bool} {e F : Nat}

theorem lt (h : Fields64 w neg e F) : w < 2 ^ 64 := by
  have := h.exp_lt; have := h.frac_lt
  rw [h.eq]; cases neg <;> simp [zero, signBit, binary64] <;> omega

theorem exponent_eq (h : Fields64 w neg e F) : binary64.exponent w = e := by
  have := h.exp_lt; have := h.frac_lt
  rw [h.eq]; cases neg <;> simp [exponent, zero, signBit, hidden, binary64] <;> omega

theorem fraction_eq (h : Fields64 w neg e F) : binary64.fraction w = F := by
  have := h.exp_lt; have := h.frac_lt
  rw [h.eq]; cases neg <;> simp [fraction, zero, signBit, hidden, binary64] <;> omega

theorem negative_eq (h : Fields64 w neg e F) : binary64.negative w = neg := by
  have := h.exp_lt; have := h.frac_lt
  rw [h.eq]; cases neg <;> simp [negative, zero, signBit, binary64] <;> omega

theorem isNaN_eq (h : Fields64 w neg e F) : binary64.isNaN w = (e == 2047 && F != 0) := by
  simp [isNaN, h.exponent_eq, h.fraction_eq]

theorem magnitude_eq (h : Fields64 w neg e F) : binary64.magnitude w = e * 2 ^ 52 + F := by
  have := h.exp_lt; have := h.frac_lt
  rw [h.eq]; cases neg <;> simp [magnitude, zero, signBit, binary64] <;> omega

theorem isZero_eq (h : Fields64 w neg e F) : binary64.isZero w = (e == 0 && F == 0) := by
  rw [isZero, h.magnitude_eq, Bool.eq_iff_iff]
  simp only [beq_iff_eq, Bool.and_eq_true]
  omega

theorem truncate_eq_none (h : Fields64 w neg 2047 F) : binary64.truncate w = none := by
  simp [truncate, isFinite, h.exponent_eq]

theorem truncate_zero (h : Fields64 w neg 0 0) : binary64.truncate w = some 0 := by
  have hfin : binary64.isFinite w = true := by simp [isFinite, h.exponent_eq]
  have hsig : binary64.significand w = 0 := by simp [significand, h.exponent_eq, h.fraction_eq]
  rw [truncate_eq, if_pos hfin, hsig]
  simp

/-- A normal double truncates as its significand `2 ^ 52 + F` at scale `e - 1075`. -/
theorem truncate_normal (h : Fields64 w neg e F) (h1 : 1 ≤ e) (h2 : e < 2047) :
    binary64.truncate w = some (if neg then -(truncScaled (2 ^ 52 + F) ((e : Int) - 1075) : Int)
      else truncScaled (2 ^ 52 + F) ((e : Int) - 1075)) := by
  have hfin : binary64.isFinite w = true := by
    simp [isFinite, h.exponent_eq]; omega
  have hsig : binary64.significand w = 2 ^ 52 + F := by
    simp [significand, h.exponent_eq, h.fraction_eq]; omega
  have hscale : binary64.scale w = (e : Int) - 1075 := by
    simp [scale, h.exponent_eq]; omega
  rw [truncate_eq, if_pos hfin, hsig, hscale, h.negative_eq]

end Fields64

/-! ## Rounding a value that is already a double -/

theorem log2_eq_of_bounds {n k : Nat} (hlo : 2 ^ k ≤ n) (hhi : n < 2 ^ (k + 1)) :
    Nat.log2 n = k := by
  have hn : n ≠ 0 := Nat.pos_iff_ne_zero.1 (Nat.lt_of_lt_of_le (Nat.two_pow_pos k) hlo)
  have h1 : k ≤ Nat.log2 n := (Nat.le_log2 hn).2 hlo
  have h2 : Nat.log2 n < k + 1 := (Nat.log2_lt hn).2 hhi
  omega

theorem log2_mul_pow {m p : Nat} (hlo : 2 ^ p ≤ m) (hhi : m < 2 ^ (p + 1)) (a : Nat) :
    Nat.log2 (m * 2 ^ a) = p + a := by
  apply log2_eq_of_bounds
  · rw [Nat.pow_add]
    exact Nat.mul_le_mul_right _ hlo
  · calc m * 2 ^ a < 2 ^ (p + 1) * 2 ^ a := Nat.mul_lt_mul_of_pos_right hhi (Nat.two_pow_pos a)
      _ = 2 ^ (p + a + 1) := by rw [← Nat.pow_add]; congr 1; omega

theorem floorLog2_mul_pow {m p : Nat} (hlo : 2 ^ p ≤ m) (hhi : m < 2 ^ (p + 1)) (a : Nat) :
    floorLog2 (m * 2 ^ a) 1 = p + a := by
  have hnot : ¬ m * 2 ^ a < 2 ^ (p + a) := by
    rw [Nat.pow_add]; exact Nat.not_lt.2 (Nat.mul_le_mul_right _ hlo)
  have hone : Nat.log2 1 = 0 := by simpa using Nat.log2_two_pow (n := 0)
  have hk : ((p : Int) + a).toNat = p + a := by omega
  simp [floorLog2, log2_mul_pow hlo hhi, hone, hk, hnot]
  omega

theorem floorLog2_div_pow {m p : Nat} (hlo : 2 ^ p ≤ m) (hhi : m < 2 ^ (p + 1)) (b : Nat) :
    floorLog2 m (2 ^ b) = (p : Int) - b := by
  have hm : Nat.log2 m = p := log2_eq_of_bounds hlo hhi
  by_cases hpb : b ≤ p
  · have hnot : ¬ m < 2 ^ b * 2 ^ (p - b) := by
      rw [← Nat.pow_add, Nat.add_sub_cancel' hpb]; omega
    simp [floorLog2, hm, Nat.log2_two_pow, hpb, hnot]
  · have hnot : ¬ m * 2 ^ (b - p) < 2 ^ b := by
      rw [show 2 ^ b = 2 ^ p * 2 ^ (b - p) by rw [← Nat.pow_add]; congr 1; omega]
      exact Nat.not_lt.2 (Nat.mul_le_mul_right _ hlo)
    have hk : (-((p : Int) - b)).toNat = b - p := by omega
    simp [floorLog2, hm, Nat.log2_two_pow, hpb, hk, hnot]

theorem roundHalfEven_mul_self (q : Nat) {d : Nat} (hd : 0 < d) : roundHalfEven (q * d) d = q := by
  simp [roundHalfEven, Nat.mul_div_cancel _ hd, Nat.mul_mod_left]
  omega

theorem scaled_of_nonpos {num den q : Nat} {s : Int} (hs : s ≤ 0) (hden : 0 < den)
    (h : num * 2 ^ (-s).toNat = q * den) : scaled num den s = q := by
  simp [scaled, hs, h, roundHalfEven_mul_self q hden]

theorem scaled_of_pos {num den q : Nat} {s : Int} (hs : 0 < s) (hden : 0 < den)
    (h : num = q * (den * 2 ^ s.toNat)) : scaled num den s = q := by
  have hs' : ¬ s ≤ 0 := by omega
  simp [scaled, hs', h, roundHalfEven_mul_self q (Nat.mul_pos hden (Nat.two_pow_pos _))]

/-- A positive rational whose binary logarithm and significand are already those of a double
rounds to that double. -/
theorem round_binary64_of_exact (neg : Bool) {num den M : Nat} {S : Int} (hnum : num ≠ 0)
    (hden : den ≠ 0) (hM : 2 ^ 52 ≤ M ∧ M < 2 ^ 53) (hS : -1074 ≤ S ∧ S ≤ 971)
    (hlog : floorLog2 num den = S + 52) (hsc : scaled num den S = M) :
    binary64.round neg num den = binary64.pack neg M S := by
  have hs : max (floorLog2 num den - binary64.fracBits) binary64.minScale = S := by
    rw [hlog, binary64_fracBits, binary64_minScale]; omega
  have hM2 : M ≠ 2 * binary64.hidden := by rw [binary64_hidden]; omega
  have hover : ¬ S > binary64.maxScale := by rw [binary64_maxScale]; omega
  rw [round, if_neg (by omega)]
  simp only [hs, hsc, hM2, hover, if_false]

theorem fields_pack (neg : Bool) {M : Nat} {S : Int} (hM : 2 ^ 52 ≤ M ∧ M < 2 ^ 53)
    (hS : -1074 ≤ S ∧ S ≤ 971) :
    Fields64 (binary64.pack neg M S) neg (S + 1075).toNat (M - 2 ^ 52) where
  exp_lt := by omega
  frac_lt := by omega
  eq := by
    have hlt : ¬ M < binary64.hidden := by rw [binary64_hidden]; omega
    rw [pack, if_neg hlt, binary64_minScale, binary64_hidden]
    congr 3; omega

/-- Shifting the significand up by `k` places and the scale down by as many truncates alike. -/
theorem truncScaled_shift (m k : Nat) (s : Int) : truncScaled (m * 2 ^ k) (s - k) = truncScaled m s := by
  unfold truncScaled
  by_cases hk : 0 ≤ s - k
  · have hs : 0 ≤ s := by omega
    rw [if_pos hk, if_pos hs, Nat.mul_assoc, ← Nat.pow_add]
    congr 2; omega
  · rw [if_neg hk]
    by_cases hs : 0 ≤ s
    · rw [if_pos hs]
      have hsplit : m * 2 ^ k = m * 2 ^ s.toNat * 2 ^ (-(s - k)).toNat := by
        rw [Nat.mul_assoc, ← Nat.pow_add]; congr 2; omega
      rw [hsplit]
      exact Nat.mul_div_cancel _ (Nat.two_pow_pos _)
    · rw [if_neg hs]
      have hsplit : (-(s - k)).toNat = (-s).toNat + k := by omega
      rw [hsplit, Nat.pow_add]
      exact Nat.mul_div_mul_right _ _ (Nat.two_pow_pos k)

/-! ## Singles, and what they widen to -/

@[simp] theorem binary32_hidden : binary32.hidden = 2 ^ 23 := rfl
@[simp] theorem binary32_expField : binary32.expField = 255 := rfl
@[simp] theorem binary32_fracBits : binary32.fracBits = 23 := rfl

theorem binary32_significand (w : Nat) :
    binary32.significand w =
      if w / 2 ^ 23 % 256 = 0 then w % 2 ^ 23 else 2 ^ 23 + w % 2 ^ 23 := rfl

theorem binary32_scale (w : Nat) :
    binary32.scale w = ((max (w / 2 ^ 23 % 256) 1 : Nat) : Int) - 150 := by
  simp only [scale, exponent, hidden, bias, binary32, Nat.pow_eq]; omega

/-- A nonzero finite single has a significand of at most 24 bits, and its value `m * 2 ^ s`
lies between `2 ^ -149` and `2 ^ 128`. -/
theorem binary32_finite_bounds {w : Nat} (hfin : binary32.isFinite w = true)
    (hm : binary32.significand w ≠ 0) :
    Nat.log2 (binary32.significand w) ≤ 23 ∧
      -149 ≤ binary32.scale w + Nat.log2 (binary32.significand w) ∧ binary32.scale w ≤ 104 := by
  have he : w / 2 ^ 23 % 256 ≠ 255 := by simpa [isFinite, exponent, binary32, hidden, expField] using hfin
  rw [binary32_scale]
  by_cases h0 : w / 2 ^ 23 % 256 = 0
  · have hlt : Nat.log2 (binary32.significand w) < 23 := by
      apply (Nat.log2_lt hm).2
      rw [binary32_significand, if_pos h0]; omega
    rw [h0]; omega
  · have hlog : Nat.log2 (binary32.significand w) = 23 := by
      apply log2_eq_of_bounds <;> rw [binary32_significand, if_neg h0] <;> omega
    rw [hlog]; omega

theorem binary32_isNaN_of_isFinite {w : Nat} (hfin : binary32.isFinite w = true) :
    binary32.isNaN w = false := by
  simp_all [isNaN, isFinite]

theorem binary32_isInf_of_isFinite {w : Nat} (hfin : binary32.isFinite w = true) :
    binary32.isInf w = false := by
  simp_all [isInf, isFinite]

/-- A finite word converts by rounding its exact value `toFraction`. -/
theorem convert_of_isFinite (f g : Format) {w : Nat} (hnan : f.isNaN w = false)
    (hinf : f.isInf w = false) :
    f.convert g w = g.round (f.negative w) (f.toFraction w).1 (f.toFraction w).2 := by
  simp [convert, hnan, hinf]

/-- The significand of a nonzero single shifted up to 53 bits. -/
def widenedSignificand (w : Nat) : Nat :=
  binary32.significand w * 2 ^ (52 - Nat.log2 (binary32.significand w))

/-- The scale that keeps the value of `widenedSignificand`. -/
def widenedScale (w : Nat) : Int :=
  binary32.scale w + Nat.log2 (binary32.significand w) - 52

/-- The widened significand and scale are those of a normal double. -/
theorem widened_bounds {w : Nat} (hfin : binary32.isFinite w = true)
    (hm : binary32.significand w ≠ 0) :
    (2 ^ 52 ≤ widenedSignificand w ∧ widenedSignificand w < 2 ^ 53) ∧
      (-1074 ≤ widenedScale w ∧ widenedScale w ≤ 971) := by
  obtain ⟨hp, hlow, hhigh⟩ := binary32_finite_bounds hfin hm
  unfold widenedSignificand widenedScale
  generalize binary32.significand w = m at *
  generalize hp' : Nat.log2 m = p at *
  have hlo : 2 ^ p ≤ m := hp' ▸ Nat.log2_self_le hm
  have hhi : m < 2 ^ (p + 1) := hp' ▸ Nat.lt_log2_self
  refine ⟨⟨?_, ?_⟩, by omega⟩
  · calc 2 ^ 52 = 2 ^ p * 2 ^ (52 - p) := by rw [← Nat.pow_add]; congr 1; omega
      _ ≤ m * 2 ^ (52 - p) := Nat.mul_le_mul_right _ hlo
  · calc m * 2 ^ (52 - p) < 2 ^ (p + 1) * 2 ^ (52 - p) :=
        Nat.mul_lt_mul_of_pos_right hhi (Nat.two_pow_pos _)
      _ = 2 ^ 53 := by rw [← Nat.pow_add]; congr 1; omega

/-- A nonzero finite single widens to the double of the same value: its significand shifted up
to 53 bits, its scale lowered by as much. -/
theorem convert_binary64_of_ne_zero {w : Nat} (hfin : binary32.isFinite w = true)
    (hm : binary32.significand w ≠ 0) :
    binary32.convert binary64 w =
      binary64.pack (binary32.negative w) (widenedSignificand w) (widenedScale w) := by
  obtain ⟨hM, hS⟩ := widened_bounds hfin hm
  obtain ⟨hp, hlow, hhigh⟩ := binary32_finite_bounds hfin hm
  rw [convert_of_isFinite _ _ (binary32_isNaN_of_isFinite hfin) (binary32_isInf_of_isFinite hfin)]
  unfold toFraction
  unfold widenedSignificand widenedScale at *
  generalize binary32.significand w = m at *
  generalize binary32.scale w = σ at *
  generalize hp' : Nat.log2 m = p at *
  have hlo : 2 ^ p ≤ m := hp' ▸ Nat.log2_self_le hm
  have hhi : m < 2 ^ (p + 1) := hp' ▸ Nat.lt_log2_self
  by_cases hσ : 0 ≤ σ
  · simp only [hσ, if_true, Nat.pow_eq]
    refine round_binary64_of_exact _ (Nat.mul_ne_zero hm (Nat.pos_iff_ne_zero.1 (Nat.two_pow_pos _)))
      Nat.one_ne_zero hM hS ?_ ?_
    · rw [floorLog2_mul_pow hlo hhi]; omega
    · by_cases hS0 : σ + p - 52 ≤ 0
      · apply scaled_of_nonpos hS0 Nat.one_pos
        rw [Nat.mul_one, Nat.mul_assoc, ← Nat.pow_add]
        congr 2; omega
      · apply scaled_of_pos (by omega) Nat.one_pos
        rw [Nat.one_mul, Nat.mul_assoc, ← Nat.pow_add]
        congr 2; omega
  · simp only [hσ, if_false, Nat.pow_eq]
    refine round_binary64_of_exact _ hm (Nat.pos_iff_ne_zero.1 (Nat.two_pow_pos _)) hM hS ?_ ?_
    · rw [floorLog2_div_pow hlo hhi]; omega
    · apply scaled_of_nonpos (by omega) (Nat.two_pow_pos _)
      rw [Nat.mul_assoc, ← Nat.pow_add]
      congr 2; omega

theorem binary32_isZero_iff (w : Nat) : binary32.isZero w = true ↔ binary32.significand w = 0 := by
  rw [binary32_significand]
  simp only [isZero, magnitude, signBit, binary32, beq_iff_eq, Nat.pow_eq]
  split <;> omega

theorem convert_binary64_of_zero {w : Nat} (hfin : binary32.isFinite w = true)
    (hm : binary32.significand w = 0) :
    binary32.convert binary64 w = binary64.zero (binary32.negative w) := by
  rw [convert_of_isFinite _ _ (binary32_isNaN_of_isFinite hfin) (binary32_isInf_of_isFinite hfin)]
  by_cases hσ : 0 ≤ binary32.scale w <;> simp [toFraction, hm, hσ, round]

theorem fields_zero (neg : Bool) : Fields64 (binary64.zero neg) neg 0 0 :=
  ⟨by omega, by omega, by simp⟩

/-- Every finite single widens to a finite double, zero exactly when the single is. -/
theorem fields_convert_of_isFinite {w : Nat} (hfin : binary32.isFinite w = true) :
    ∃ e F, Fields64 (binary32.convert binary64 w) (binary32.negative w) e F ∧ e < 2047 ∧
      (e = 0 ∧ F = 0 ↔ binary32.significand w = 0) := by
  by_cases hm : binary32.significand w = 0
  · rw [convert_binary64_of_zero hfin hm]
    exact ⟨0, 0, fields_zero _, by omega, by simp [hm]⟩
  · obtain ⟨hM, hS⟩ := widened_bounds hfin hm
    rw [convert_binary64_of_ne_zero hfin hm]
    exact ⟨_, _, fields_pack _ hM hS, by omega, by simp [hm]; omega⟩

/-- Infinities and NaNs widen to words with the all-ones exponent, a NaN keeping a nonzero
fraction. -/
theorem fields_convert_of_not_isFinite {w : Nat} (hfin : binary32.isFinite w = false) :
    ∃ F, Fields64 (binary32.convert binary64 w) (binary32.negative w) 2047 F ∧
      (F = 0 ↔ binary32.isNaN w = false) := by
  have hfrac : binary32.fraction w < 2 ^ 23 := Nat.mod_lt _ (Nat.two_pow_pos _)
  have hinf (F : Nat) (hF : F < 2 ^ 52) :
      Fields64 (binary64.infinity (binary32.negative w) + F) (binary32.negative w) 2047 F :=
    ⟨by omega, hF, by simp [infinity]⟩
  cases hnan : binary32.isNaN w
  · have hisInf : binary32.isInf w = true := by simp_all [isNaN, isInf, isFinite]
    refine ⟨0, ?_, by simp⟩
    simpa [convert, hnan, hisInf] using hinf 0 (by omega)
  · have hF : binary32.fraction w ≠ 0 := by simp_all [isNaN]
    have hx := hinf (binary32.fraction w * 2 ^ 29) (by omega)
    have hconv : binary32.convert binary64 w =
        binary64.quiet (binary64.infinity (binary32.negative w) + binary32.fraction w * 2 ^ 29) := by
      simp [convert, hnan, binary32_fracBits]
    rw [hconv, quiet, hx.fraction_eq, binary64_hidden]
    split
    · exact ⟨_, hx, by simp; omega⟩
    · refine ⟨binary32.fraction w * 2 ^ 29 + 2 ^ 52 / 2, ⟨by omega, by omega, ?_⟩, by simp⟩
      rw [hx.eq]; omega

theorem binary32_isZero_of_not_isFinite {w : Nat} (hfin : binary32.isFinite w = false) :
    binary32.isZero w = false := by
  have hm : binary32.significand w ≠ 0 := by
    rw [binary32_significand]
    simp only [isFinite, exponent, binary32, hidden, expField, bne_eq_false_iff_eq,
      Nat.pow_eq] at hfin
    split <;> omega
  cases h : binary32.isZero w
  · rfl
  · exact absurd ((binary32_isZero_iff w).1 h) hm

/-- Every word widens to a double whose NaN and zero tests agree with the single's. -/
theorem fields_convert (w : Nat) :
    ∃ e F, Fields64 (binary32.convert binary64 w) (binary32.negative w) e F ∧
      (e == 2047 && F != 0) = binary32.isNaN w ∧ (e == 0 && F == 0) = binary32.isZero w := by
  cases hfin : binary32.isFinite w
  · obtain ⟨F, hF, hiff⟩ := fields_convert_of_not_isFinite hfin
    refine ⟨2047, F, hF, ?_, by simp [binary32_isZero_of_not_isFinite hfin]⟩
    cases h : binary32.isNaN w <;> simp_all
  · obtain ⟨e, F, hF, he, hz⟩ := fields_convert_of_isFinite hfin
    refine ⟨e, F, hF, by simp [binary32_isNaN_of_isFinite hfin]; omega, ?_⟩
    rw [Bool.eq_iff_iff, binary32_isZero_iff, ← hz]
    simp

theorem convert_binary64_lt (w : Nat) : binary32.convert binary64 w < 2 ^ 64 := by
  obtain ⟨e, F, h, -, -⟩ := fields_convert w
  exact h.lt

@[simp] theorem isNaN_convert_binary64 (w : Nat) :
    binary64.isNaN (binary32.convert binary64 w) = binary32.isNaN w := by
  obtain ⟨e, F, h, hnan, -⟩ := fields_convert w
  rw [h.isNaN_eq, hnan]

@[simp] theorem isZero_convert_binary64 (w : Nat) :
    binary64.isZero (binary32.convert binary64 w) = binary32.isZero w := by
  obtain ⟨e, F, h, -, hz⟩ := fields_convert w
  rw [h.isZero_eq, hz]

/-- Widening a single and truncating it toward zero gives the single's own truncation. -/
@[simp] theorem truncate_convert_binary64 (w : Nat) :
    binary64.truncate (binary32.convert binary64 w) = binary32.truncate w := by
  cases hfin : binary32.isFinite w
  · obtain ⟨F, hF, -⟩ := fields_convert_of_not_isFinite hfin
    rw [hF.truncate_eq_none, truncate_eq, hfin, if_neg Bool.false_ne_true]
  · by_cases hm : binary32.significand w = 0
    · rw [convert_binary64_of_zero hfin hm, (fields_zero _).truncate_zero, truncate_eq, hfin, hm]
      simp
    · obtain ⟨hM, hS⟩ := widened_bounds hfin hm
      obtain ⟨hp, -, -⟩ := binary32_finite_bounds hfin hm
      have hf := fields_pack (binary32.negative w) hM hS
      rw [convert_binary64_of_ne_zero hfin hm, hf.truncate_normal (by omega) (by omega),
        truncate_eq binary32 w, if_pos hfin]
      have hsig : 2 ^ 52 + (widenedSignificand w - 2 ^ 52) = widenedSignificand w := by omega
      have hscale : (((widenedScale w + 1075).toNat : Nat) : Int) - 1075 =
          binary32.scale w - ((52 - Nat.log2 (binary32.significand w) : Nat) : Int) := by
        unfold widenedScale at hS ⊢; omega
      rw [hsig, hscale, widenedSignificand, truncScaled_shift]

end TypedJit.Ieee.Format

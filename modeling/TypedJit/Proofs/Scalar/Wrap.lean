import Mathlib.Data.Int.ModEq
import TypedJit.Scalar.Basic

/-!
Integers of a width as residues.
-/

namespace TypedJit.Scalar

variable {s : ScalarType} {n m : Int}

theorem bits_le_64 (s : ScalarType) : s.bits ≤ 64 := by
  cases s <;> decide

/-- Integers congruent modulo `2 ^ b` make the same `b`-bit integer. -/
theorem ofInt_eq_ofInt (hs : s.isInteger = true) (h : n ≡ m [ZMOD 2 ^ s.bits]) :
    ofInt s n = ofInt s m := by
  have hb (k : Nat) (hk : ((2 : Int) ^ s.bits) = k) : n.bmod k = m.bmod k := by
    rw [Int.bmod_def, Int.bmod_def, ← hk, h]
  cases s <;> simp only [ScalarType.isInteger, Bool.false_eq_true] at hs
  · exact congrArg i8 (Int8.toInt_inj.1 (by simpa [Int8.toInt_ofInt] using hb _ (by decide)))
  · exact congrArg i16 (Int16.toInt_inj.1 (by simpa [Int16.toInt_ofInt] using hb _ (by decide)))
  · exact congrArg i32 (Int32.toInt_inj.1 (by simpa [Int32.toInt_ofInt] using hb _ (by decide)))
  · exact congrArg i64 (Int64.toInt_inj.1 (by simpa [Int64.toInt_ofInt] using hb _ (by decide)))

theorem bmod_modEq (n : Int) (k : Nat) : n.bmod k ≡ n [ZMOD k] := Int.bmod_emod

/-- An integer value lies in the signed range of its width. -/
theorem toInt_bounds {x : Scalar} (hx : x.ty.isInteger = true) :
    -2 ^ (x.ty.bits - 1) ≤ x.toInt ∧ x.toInt < 2 ^ (x.ty.bits - 1) := by
  cases x with
  | i8 v => exact ⟨by simpa [toInt, ty, ScalarType.bits] using v.le_toInt,
      by simpa [toInt, ty, ScalarType.bits] using v.toInt_lt⟩
  | i16 v => exact ⟨by simpa [toInt, ty, ScalarType.bits] using v.le_toInt,
      by simpa [toInt, ty, ScalarType.bits] using v.toInt_lt⟩
  | i32 v => exact ⟨by simpa [toInt, ty, ScalarType.bits] using v.le_toInt,
      by simpa [toInt, ty, ScalarType.bits] using v.toInt_lt⟩
  | i64 v => exact ⟨by simpa [toInt, ty, ScalarType.bits] using v.le_toInt,
      by simpa [toInt, ty, ScalarType.bits] using v.toInt_lt⟩
  | _ => simp [ty, ScalarType.isInteger] at hx

/-- An integer value read at 64 bits is itself. -/
theorem toInt_ofInt64 {x : Scalar} (hx : x.ty.isInteger = true) :
    (Int64.ofInt x.toInt).toInt = x.toInt := by
  have h63 : -2 ^ 63 ≤ x.toInt ∧ x.toInt < 2 ^ 63 := by
    obtain ⟨hlo, hhi⟩ := toInt_bounds hx
    cases x <;> simp_all [ty, ScalarType.bits] <;> omega
  rw [Int64.toInt_ofInt]
  exact Int.bmod_eq_of_le (by simp [Int64.size]; omega) (by simp [Int64.size]; omega)

theorem toBits_eq {x : Scalar} (hx : x.ty.isInteger = true) :
    (x.toBits : Int) = x.toInt % 2 ^ x.ty.bits := by
  have hnn : 0 ≤ x.toInt % 2 ^ x.ty.bits := Int.emod_nonneg _ (pow_ne_zero _ (by decide))
  cases x <;> simp_all [toBits, ty, ScalarType.isInteger, Int.pow_eq]

theorem toBits_eq_toNat {x : Scalar} (hx : x.ty.isInteger = true) :
    x.toBits = (x.toInt % 2 ^ x.ty.bits).toNat := by
  have hnn : 0 ≤ x.toInt % 2 ^ x.ty.bits := Int.emod_nonneg _ (pow_ne_zero _ (by decide))
  have h := toBits_eq hx
  omega

/-- The unsigned pattern of an integer is congruent to its signed value. -/
theorem toBits_modEq {x : Scalar} (hx : x.ty.isInteger = true) :
    (x.toBits : Int) ≡ x.toInt [ZMOD 2 ^ x.ty.bits] := by
  rw [toBits_eq hx]
  exact Int.mod_modEq _ _

theorem ofInt_toInt {x : Scalar} (hx : x.ty.isInteger = true) : ofInt x.ty x.toInt = x := by
  cases x <;> simp_all [ofInt, ty, toInt, ScalarType.isInteger]

/-- A 64-bit result converted to an integer type keeps its low bits. -/
theorem cast_i64 (hs : s.isInteger = true) (r : Int64) : (i64 r).cast s = ofInt s r.toInt := by
  by_cases h : s = .int64
  · subst h
    simp [cast, ty, ofInt]
  · cases s <;> simp_all [cast, ty, ScalarType.isInteger, ScalarType.isReal, toInt]

/-- Narrowing an integer keeps the low bits of its pattern, which are those of its value. -/
theorem ofInt_toBits {x : Scalar} (hx : x.ty.isInteger = true) (hs : s.isInteger = true)
    (hle : s.bits ≤ x.ty.bits) : ofInt s x.toBits = ofInt s x.toInt :=
  ofInt_eq_ofInt hs ((toBits_modEq hx).of_dvd (pow_dvd_pow 2 hle))

/-- A pattern below the width is a value in `[0, width)`: a negative value has its top bit set. -/
theorem toBits_lt_bits_iff {x : Scalar} (hx : x.ty.isInteger = true) :
    x.toBits < x.ty.bits ↔ 0 ≤ x.toInt ∧ x.toInt < x.ty.bits := by
  have hb := toInt_bounds hx
  rw [← Int.ofNat_lt, toBits_eq hx]
  cases x <;> simp_all [ty, ScalarType.bits, ScalarType.isInteger] <;> omega

theorem toBits_of_nonneg {x : Scalar} (hx : x.ty.isInteger = true) (h : 0 ≤ x.toInt) :
    x.toBits = x.toInt.toNat := by
  have hb := toInt_bounds hx
  have hbits := toBits_eq hx
  cases x <;> simp_all [ty, ScalarType.bits, ScalarType.isInteger] <;> omega

end TypedJit.Scalar

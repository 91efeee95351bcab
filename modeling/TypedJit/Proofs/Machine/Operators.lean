import Mathlib
import TypedJit.Proofs.Scalar.Wrap
import TypedJit.Proofs.Ieee.Widening
import TypedJit.Proofs.Interpreter.Typing
import TypedJit.Machine.Semantics

/-!
The machine's operators against the reference interpreter's.
-/

namespace TypedJit.Ieee.Format

variable {f : Format} {w : Nat} {n : Int}

theorem isNaN_of_truncate (h : f.truncate w = some n) : f.isNaN w = false := by
  simp only [truncate] at h
  split at h
  · simp_all [isNaN, isFinite]
  · cases h

/-- Clamping an integer part that is already in range changes nothing. -/
theorem truncateSat_of_truncate {lo hi : Int} (h : f.truncate w = some n) (hlo : lo ≤ n)
    (hhi : n ≤ hi) : f.truncateSat lo hi w = n := by
  simp [truncateSat, isNaN_of_truncate h, h]
  omega

/-- The magnitude of a word is its fraction and exponent fields read together. -/
theorem magnitude_eq_fields (f : Format) (w : Nat) :
    f.magnitude w = f.fraction w + f.hidden * f.exponent w := by
  simp only [magnitude, fraction, exponent, signBit, hidden, Nat.pow_eq, Nat.pow_add]
  exact Nat.mod_mul

theorem isZero_of_isNaN (h : f.isNaN w = true) : f.isZero w = false := by
  have hfrac : f.fraction w ≠ 0 := by simp_all [isNaN]
  simp [isZero, magnitude_eq_fields, hfrac]

/-- A double compares equal to zero exactly when it is a zero. -/
theorem binary64_compare_zero (w : Nat) :
    (binary64.compare w 0 != some .eq) = (binary64.isNaN w || !binary64.isZero w) := by
  have h0 : binary64.isNaN 0 = false := by decide
  cases hn : binary64.isNaN w
  · have hneg : binary64.negative 0 = false := by decide
    have hmag : binary64.magnitude 0 = 0 := by decide
    simp only [compare, hn, h0, hneg, hmag, Bool.or_false, Bool.false_or]
    rw [Bool.eq_iff_iff]
    cases binary64.negative w <;> simp [isZero]
  · simp [compare, hn]

end TypedJit.Ieee.Format

namespace TypedJit.Machine

open Scalar Ieee

theorem bmod64_modEq (n : Int) : n.bmod (2 ^ 64) ≡ n [ZMOD 2 ^ 64] := by
  exact_mod_cast bmod_modEq n (2 ^ 64)

theorem toInt_ofInt64_modEq (n : Int) : (Int64.ofInt n).toInt ≡ n [ZMOD 2 ^ 64] := by
  rw [Int64.toInt_ofInt]; exact bmod64_modEq n

/-! ## Sixty-four-bit arithmetic -/

theorem int64_add_modEq (m n : Int) : (Int64.ofInt m + Int64.ofInt n).toInt ≡ m + n [ZMOD 2 ^ 64] := by
  rw [Int64.toInt_add]
  exact (bmod64_modEq _).trans ((toInt_ofInt64_modEq m).add (toInt_ofInt64_modEq n))

theorem int64_sub_modEq (m n : Int) : (Int64.ofInt m - Int64.ofInt n).toInt ≡ m - n [ZMOD 2 ^ 64] := by
  rw [Int64.toInt_sub]
  exact (bmod64_modEq _).trans ((toInt_ofInt64_modEq m).sub (toInt_ofInt64_modEq n))

theorem int64_mul_modEq (m n : Int) : (Int64.ofInt m * Int64.ofInt n).toInt ≡ m * n [ZMOD 2 ^ 64] := by
  rw [Int64.toInt_mul]
  exact (bmod64_modEq _).trans ((toInt_ofInt64_modEq m).mul (toInt_ofInt64_modEq n))

theorem int64_neg_modEq (n : Int) : (-Int64.ofInt n).toInt ≡ -n [ZMOD 2 ^ 64] := by
  rw [Int64.toInt_neg]
  exact (bmod64_modEq _).trans (toInt_ofInt64_modEq n).neg

theorem int64_not_modEq (n : Int) : (~~~Int64.ofInt n).toInt ≡ -n - 1 [ZMOD 2 ^ 64] := by
  rw [Int64.toInt_not]
  exact (bmod64_modEq _).trans ((toInt_ofInt64_modEq n).neg.sub rfl)

theorem int64_toInt_modEq (r : Int64) : r.toInt ≡ (r.toBitVec.toNat : Int) [ZMOD 2 ^ 64] := by
  rw [Int64.toInt, BitVec.toInt_eq_toNat_bmod]
  exact bmod64_modEq _

theorem int64_toNat_ofInt (n : Int) : (Int64.ofInt n).toBitVec.toNat = (n % 2 ^ 64).toNat := by
  rw [Int64.toBitVec_ofInt, BitVec.toNat_ofInt]
  norm_num

theorem int64_and_modEq (m n : Int) :
    (Int64.ofInt m &&& Int64.ofInt n).toInt ≡ ((m % 2 ^ 64).toNat &&& (n % 2 ^ 64).toNat : Nat)
      [ZMOD 2 ^ 64] := by
  refine (int64_toInt_modEq _).trans ?_
  rw [Int64.toBitVec_and, BitVec.toNat_and, int64_toNat_ofInt, int64_toNat_ofInt]

theorem int64_or_modEq (m n : Int) :
    (Int64.ofInt m ||| Int64.ofInt n).toInt ≡ ((m % 2 ^ 64).toNat ||| (n % 2 ^ 64).toNat : Nat)
      [ZMOD 2 ^ 64] := by
  refine (int64_toInt_modEq _).trans ?_
  rw [Int64.toBitVec_or, BitVec.toNat_or, int64_toNat_ofInt, int64_toNat_ofInt]

theorem int64_xor_modEq (m n : Int) :
    (Int64.ofInt m ^^^ Int64.ofInt n).toInt ≡ ((m % 2 ^ 64).toNat ^^^ (n % 2 ^ 64).toNat : Nat)
      [ZMOD 2 ^ 64] := by
  refine (int64_toInt_modEq _).trans ?_
  rw [Int64.toBitVec_xor, BitVec.toNat_xor, int64_toNat_ofInt, int64_toNat_ofInt]

/-- A shift amount in `[0, 64)` is its own remainder modulo 64. -/
theorem int64_smod_64 {n : Int} (h0 : 0 ≤ n) (h1 : n < 64) :
    ((Int64.ofInt n).toBitVec.smod 64).toNat = n.toNat := by
  have h : ((Int64.ofInt n).toBitVec.smod 64).toInt = n := by
    rw [BitVec.toInt_smod]
    have hn : (Int64.ofInt n).toBitVec.toInt = n := by
      rw [Int64.toBitVec_ofInt, BitVec.toInt_ofInt]
      exact Int.bmod_eq_of_le (by omega) (by omega)
    have h64 : (64 : BitVec 64).toInt = 64 := by decide
    rw [hn, h64, Int.fmod_eq_emod_of_nonneg _ (by decide), Int.emod_eq_of_lt h0 h1]
  generalize (Int64.ofInt n).toBitVec.smod 64 = x at h
  have hlt := x.isLt
  rw [BitVec.toInt_eq_toNat_bmod, Int.bmod_def] at h
  split at h <;> omega

theorem int64_shl_modEq (m : Int) {n : Int} (h0 : 0 ≤ n) (h1 : n < 64) :
    (Int64.ofInt m <<< Int64.ofInt n).toInt ≡ ((m % 2 ^ 64).toNat * 2 ^ n.toNat : Nat)
      [ZMOD 2 ^ 64] := by
  refine (int64_toInt_modEq _).trans ?_
  rw [Int64.toBitVec_shiftLeft, BitVec.shiftLeft_eq', BitVec.toNat_shiftLeft, int64_smod_64 h0 h1,
    int64_toNat_ofInt, Nat.shiftLeft_eq]
  exact_mod_cast Nat.mod_modEq _ _

theorem int64_ashr (m : Int) {n : Int} (h0 : 0 ≤ n) (h1 : n < 64) :
    (Int64.ofInt m >>> Int64.ofInt n).toInt = (Int64.ofInt m).toInt / 2 ^ n.toNat := by
  rw [Int64.toInt, Int64.toBitVec_shiftRight, BitVec.toInt_sshiftRight', int64_smod_64 h0 h1,
    Int.shiftRight_eq_div_pow]
  push_cast
  rfl

/-! ## Integer operations against the 64-bit computation -/

theorem wrap_of_isInteger {s : ScalarType} (hs : s.isInteger = true) (n : Int) :
    wrap s n = ofInt s n := by
  have hb : s ≠ .bool := by rintro rfl; simp [ScalarType.isInteger] at hs
  simp [wrap, hb]

/-- On Bool and integer operands of one type, a non-real operator is the integer operation. -/
theorem binaryScalar_of_not_isReal {op : BinaryOp} {a b : Scalar} (ha : a.ty.isReal = false)
    (hb : b.ty = a.ty) (hop : op.isReal = false) : binaryScalar op a b = intBinary op a.ty a b := by
  simp [binaryScalar, hb, hop, ha]

theorem isInteger_of_ne_bool {s : ScalarType} (hr : s.isReal = false) (hb : s ≠ .bool) :
    s.isInteger = true := by
  revert hr hb; cases s <;> decide

theorem toBits_lt_two_pow {x : Scalar} (hx : x.ty.isReal = false) : x.toBits < 2 ^ x.ty.bits := by
  by_cases hb : x.ty = .bool
  · cases x <;> simp_all [ty]
    rename_i v
    cases v <;> decide
  · have h : (x.toBits : Int) < 2 ^ x.ty.bits := by
      rw [toBits_eq (isInteger_of_ne_bool hx hb)]
      exact Int.emod_lt_of_pos _ (by positivity)
    exact_mod_cast h

/-- A Bool or integer is the machine's wrapping of its own pattern. -/
theorem wrap_toBits {x : Scalar} (hx : x.ty.isReal = false) : wrap x.ty x.toBits = x := by
  by_cases hb : x.ty = .bool
  · cases x <;> simp_all [ty]
    rename_i v
    cases v <;> decide
  · have hi := isInteger_of_ne_bool hx hb
    rw [wrap_of_isInteger hi, ofInt_toBits hi hi le_rfl, ofInt_toInt hi]

/-- A 64-bit result cut to an integer type is the machine's wrapped value of anything congruent
to it at that width. -/
theorem cast_i64_eq_wrap {s : ScalarType} (hs : s.isInteger = true) {r : Int64} {n : Int}
    (h : r.toInt ≡ n [ZMOD 2 ^ s.bits]) : (i64 r).cast s = wrap s n := by
  rw [cast_i64 hs, wrap_of_isInteger hs]
  exact ofInt_eq_ofInt hs h

theorem modEq_bits {s : ScalarType} {m n : Int} (h : m ≡ n [ZMOD 2 ^ 64]) :
    m ≡ n [ZMOD 2 ^ s.bits] :=
  h.of_dvd (pow_dvd_pow 2 (bits_le_64 s))

theorem toNat_emod_two_pow {w k : Nat} (hwk : w ≤ k) (m : Int) :
    (m % 2 ^ k).toNat % 2 ^ w = (m % 2 ^ w).toNat := by
  have h1 : 0 ≤ m % 2 ^ k := Int.emod_nonneg _ (by positivity)
  have h2 : 0 ≤ m % 2 ^ w := Int.emod_nonneg _ (by positivity)
  apply Int.ofNat_inj.1
  push_cast [Int.toNat_of_nonneg h1, Int.toNat_of_nonneg h2]
  exact Int.emod_emod_of_dvd _ (pow_dvd_pow 2 hwk)

/-- A bitwise operator that commutes with taking the low `w` bits sees only the low `w` bits of
its operands. -/
theorem bitwise_modEq {w : Nat} (g : Nat → Nat → Nat)
    (hg : ∀ x y, g x y % 2 ^ w = g (x % 2 ^ w) (y % 2 ^ w)) (hw : w ≤ 64) (m n : Int) :
    (g (m % 2 ^ 64).toNat (n % 2 ^ 64).toNat : Int) ≡ g (m % 2 ^ w).toNat (n % 2 ^ w).toNat
      [ZMOD 2 ^ w] := by
  have h : g (m % 2 ^ 64).toNat (n % 2 ^ 64).toNat ≡ g (m % 2 ^ w).toNat (n % 2 ^ w).toNat
      [MOD 2 ^ w] := by
    unfold Nat.ModEq
    rw [hg, hg, toNat_emod_two_pow hw, toNat_emod_two_pow hw, toNat_emod_two_pow le_rfl,
      toNat_emod_two_pow le_rfl]
  exact_mod_cast Int.natCast_modEq_iff.2 h

section Integer

variable {a b : Scalar}

theorem intBinary_add (ha : a.ty.isInteger = true) :
    intBinary .add a.ty a b = some ((i64 (Int64.ofInt a.toInt + Int64.ofInt b.toInt)).cast a.ty) := by
  rw [cast_i64_eq_wrap ha (modEq_bits (int64_add_modEq _ _))]; rfl

theorem intBinary_sub (ha : a.ty.isInteger = true) :
    intBinary .sub a.ty a b = some ((i64 (Int64.ofInt a.toInt - Int64.ofInt b.toInt)).cast a.ty) := by
  rw [cast_i64_eq_wrap ha (modEq_bits (int64_sub_modEq _ _))]; rfl

theorem intBinary_mul (ha : a.ty.isInteger = true) :
    intBinary .mul a.ty a b = some ((i64 (Int64.ofInt a.toInt * Int64.ofInt b.toInt)).cast a.ty) := by
  rw [cast_i64_eq_wrap ha (modEq_bits (int64_mul_modEq _ _))]; rfl

/-- Where it is defined, the machine's signed division is the 64-bit quotient cut to width. -/
theorem intBinary_sdiv (ha : a.ty.isInteger = true) (hb : b.ty = a.ty)
    (hdef : undefinedQuotient a.ty a.toInt b.toInt = false) :
    intBinary .sdiv a.ty a b = some ((i64 (Int64.ofInt a.toInt / Int64.ofInt b.toInt)).cast a.ty) := by
  have hb' : b.ty.isInteger = true := hb ▸ ha
  rw [cast_i64_eq_wrap ha (n := a.toInt.tdiv b.toInt) (modEq_bits ?_)]
  · simp [intBinary, hdef]
  · rw [Int64.toInt_div, toInt_ofInt64 ha, toInt_ofInt64 hb']
    exact bmod64_modEq _

theorem intBinary_srem (ha : a.ty.isInteger = true) (hb : b.ty = a.ty)
    (hdef : undefinedQuotient a.ty a.toInt b.toInt = false) :
    intBinary .srem a.ty a b = some ((i64 (Int64.ofInt a.toInt % Int64.ofInt b.toInt)).cast a.ty) := by
  have hb' : b.ty.isInteger = true := hb ▸ ha
  rw [cast_i64_eq_wrap ha (n := a.toInt.tmod b.toInt) ?_]
  · simp [intBinary, hdef]
  · rw [Int64.toInt_mod, toInt_ofInt64 ha, toInt_ofInt64 hb']

/-- `and`, `or` and `xor` on the machine agree with the same operator on 64-bit words: both
see only the low bits of the operands. -/
theorem intBinary_bitwise (ha : a.ty.isInteger = true) (hb : b.ty = a.ty) {op : BinaryOp}
    {g : Nat → Nat → Nat} {r : Int64}
    (hop : intBinary op a.ty a b = some (wrap a.ty (g a.toBits b.toBits)))
    (hg : ∀ x y w, g x y % 2 ^ w = g (x % 2 ^ w) (y % 2 ^ w))
    (hr : r.toInt ≡ g (a.toInt % 2 ^ 64).toNat (b.toInt % 2 ^ 64).toNat [ZMOD 2 ^ 64]) :
    intBinary op a.ty a b = some ((i64 r).cast a.ty) := by
  have hb' : b.ty.isInteger = true := hb ▸ ha
  rw [hop, cast_i64_eq_wrap ha ((modEq_bits hr).trans
    (bitwise_modEq _ (fun x y => hg x y _) (bits_le_64 _) _ _)), toBits_eq_toNat ha,
    toBits_eq_toNat hb', hb]

/-- A left shift by an amount in `[0, width)` agrees with the 64-bit shift cut to width. -/
theorem intBinary_shl (ha : a.ty.isInteger = true) (hb : b.ty = a.ty) (hdef : b.toBits < a.ty.bits) :
    intBinary .shl a.ty a b = some ((i64 (Int64.ofInt a.toInt <<< Int64.ofInt b.toInt)).cast a.ty) := by
  have hb' : b.ty.isInteger = true := hb ▸ ha
  obtain ⟨h0, h1⟩ := (toBits_lt_bits_iff hb').1 (hb ▸ hdef)
  have h64 : b.toInt < 64 := by have := bits_le_64 b.ty; omega
  have hlt : b.toInt.toNat < a.ty.bits := by rw [← hb]; omega
  have hm : intBinary .shl a.ty a b = some (wrap a.ty (a.toBits * 2 ^ b.toInt.toNat : Nat)) := by
    simp [intBinary, toBits_of_nonneg hb' h0, hlt]
  -- the 64-bit shift sees the low 64 bits of the value, the machine its low `width` bits
  have hlow : (a.toInt % 2 ^ 64).toNat ≡ a.toBits [MOD 2 ^ a.ty.bits] := by
    unfold Nat.ModEq
    rw [toNat_emod_two_pow (bits_le_64 _), toBits_eq_toNat ha, toNat_emod_two_pow le_rfl]
  have hmul : ((a.toInt % 2 ^ 64).toNat * 2 ^ b.toInt.toNat : Nat) ≡
      (a.toBits * 2 ^ b.toInt.toNat : Nat) [ZMOD 2 ^ a.ty.bits] := by
    exact_mod_cast Int.natCast_modEq_iff.2 (hlow.mul_right _)
  rw [hm, cast_i64_eq_wrap ha ((modEq_bits (int64_shl_modEq _ h0 h64)).trans hmul)]

/-- An arithmetic right shift by an amount in `[0, width)` is the 64-bit one: the quotient by
the power of two, rounded down. -/
theorem intBinary_ashr (ha : a.ty.isInteger = true) (hb : b.ty = a.ty) (hdef : b.toBits < a.ty.bits) :
    intBinary .ashr a.ty a b = some ((i64 (Int64.ofInt a.toInt >>> Int64.ofInt b.toInt)).cast a.ty) := by
  have hb' : b.ty.isInteger = true := hb ▸ ha
  obtain ⟨h0, h1⟩ := (toBits_lt_bits_iff hb').1 (hb ▸ hdef)
  have h64 : b.toInt < 64 := by have := bits_le_64 b.ty; omega
  have hlt : b.toInt.toNat < a.ty.bits := by rw [← hb]; omega
  have hm : intBinary .ashr a.ty a b = some (wrap a.ty (a.toInt / (2 ^ b.toInt.toNat : Nat))) := by
    simp [intBinary, toBits_of_nonneg hb' h0, hlt]
  have hr : (Int64.ofInt a.toInt >>> Int64.ofInt b.toInt).toInt =
      a.toInt / (2 ^ b.toInt.toNat : Nat) := by
    rw [int64_ashr _ h0 h64, toInt_ofInt64 ha]
    push_cast
    rfl
  rw [hm, cast_i64_eq_wrap ha (by rw [hr])]

theorem toInt_zero {s : ScalarType} (hs : s.isInteger = true) : (Scalar.zero s).toInt = 0 := by
  cases s <;> simp_all [ScalarType.isInteger] <;> rfl

theorem toBits_allOnes {s : ScalarType} (hs : s.isInteger = true) :
    (ofInt s (-1)).toBits = 2 ^ s.bits - 1 := by
  cases s <;> simp_all [ScalarType.isInteger] <;> decide

theorem xor_two_pow_sub_one {x n : Nat} (hx : x < 2 ^ n) : x ^^^ (2 ^ n - 1) = 2 ^ n - 1 - x := by
  have h : (BitVec.ofNat n x ^^^ BitVec.allOnes n).toNat = (~~~BitVec.ofNat n x).toNat := by
    rw [BitVec.xor_allOnes]
  rwa [BitVec.toNat_xor, BitVec.toNat_not, BitVec.toNat_ofNat, BitVec.toNat_allOnes,
    Nat.mod_eq_of_lt hx] at h

/-- Negation on the machine is subtraction from zero, and agrees with 64-bit negation. -/
theorem intBinary_neg (ha : a.ty.isInteger = true) :
    intBinary .sub a.ty (Scalar.zero a.ty) a = some ((i64 (-Int64.ofInt a.toInt)).cast a.ty) := by
  rw [cast_i64_eq_wrap ha (modEq_bits (int64_neg_modEq _))]
  simp [intBinary, toInt_zero ha]

/-- Complement on the machine is `xor` with all ones, and agrees with the 64-bit complement. -/
theorem intBinary_not (ha : a.ty.isInteger = true) :
    intBinary .xor a.ty a (ofInt a.ty (-1)) = some ((i64 (~~~Int64.ofInt a.toInt)).cast a.ty) := by
  have hlt := toBits_lt_two_pow (x := a) (by revert ha; cases a.ty <;> decide)
  have hx : ((a.toBits ^^^ (2 ^ a.ty.bits - 1) : Nat) : Int) ≡ -a.toInt - 1 [ZMOD 2 ^ a.ty.bits] := by
    have hc : ((2 ^ a.ty.bits - 1 - a.toBits : Nat) : Int) =
        2 ^ a.ty.bits + (-(a.toBits : Int) - 1) := by
      have h1 : 1 + a.toBits ≤ 2 ^ a.ty.bits := by omega
      push_cast [Nat.sub_sub, Nat.cast_sub h1]
      ring
    rw [xor_two_pow_sub_one hlt, hc]
    exact Int.add_modEq_left.trans ((toBits_modEq ha).neg.sub_right 1)
  rw [cast_i64_eq_wrap ha ((modEq_bits (int64_not_modEq _)).trans hx.symm)]
  simp [intBinary, toBits_allOnes ha]

end Integer

/-! ## Conversions -/

section Cast

variable {x : Scalar} {dst : ScalarType}

theorem cast_of_not_isReal (hx : x.ty.isReal = false) (hd : dst ≠ .bool) (hne : x.ty ≠ dst) :
    x.cast dst = ofInt dst x.toInt := by
  simp [Scalar.cast, hne, hd, hx]

theorem castScalar_trunc (hx : x.ty.isInteger = true) (hd : dst.isInteger = true)
    (hlt : dst.bits < x.ty.bits) : castScalar .trunc x dst = some (x.cast dst) := by
  have hne : x.ty ≠ dst := by rintro rfl; omega
  have hdb : dst ≠ .bool := by rintro rfl; simp [ScalarType.isInteger] at hd
  have hxr : x.ty.isReal = false := by revert hx; cases x.ty <;> decide
  rw [cast_of_not_isReal hxr hdb hne, ← ofInt_toBits hx hd hlt.le, ← wrap_of_isInteger hd]
  rfl

theorem castScalar_sext (hx : x.ty.isInteger = true) (hd : dst.isInteger = true)
    (hne : x.ty ≠ dst) : castScalar .sext x dst = some (x.cast dst) := by
  have hdb : dst ≠ .bool := by rintro rfl; simp [ScalarType.isInteger] at hd
  have hxr : x.ty.isReal = false := by revert hx; cases x.ty <;> decide
  rw [cast_of_not_isReal hxr hdb hne]
  rfl

theorem castScalar_sitofp (hx : x.ty.isInteger = true) (hd : dst.isReal = true) :
    castScalar .sitofp x dst = some (x.cast dst) := by
  have hne : x.ty ≠ dst := by rintro rfl; revert hx hd; cases x.ty <;> decide
  have hdb : dst ≠ .bool := by rintro rfl; simp [ScalarType.isReal] at hd
  have hxr : x.ty.isReal = false := by revert hx; cases x.ty <;> decide
  rw [cast_of_not_isReal hxr hdb hne]
  rfl

/-- Out of Bool, the unsigned bit is the value. -/
theorem toBits_of_bool (hx : x.ty = .bool) : (x.toBits : Int) = x.toInt := by
  cases x <;> simp_all [ty, toBits, toInt]

theorem castScalar_zext (hx : x.ty = .bool) (hd : dst ≠ .bool) :
    castScalar .zext x dst = some (x.cast dst) := by
  rw [cast_of_not_isReal (by rw [hx]; rfl) hd (by rw [hx]; exact hd.symm), ← toBits_of_bool hx]
  rfl

theorem castScalar_uitofp (hx : x.ty = .bool) (hd : dst ≠ .bool) :
    castScalar .uitofp x dst = some (x.cast dst) := by
  rw [cast_of_not_isReal (by rw [hx]; rfl) hd (by rw [hx]; exact hd.symm), ← toBits_of_bool hx]
  rfl

/-- A real's double view truncates as the real does in its own format, and is a NaN exactly
when the real is. -/
theorem toDouble_truncate (hx : x.ty.isReal = true) :
    binary64.truncate x.toDouble.toNat = (realFormat x.ty).truncate x.toBits ∧
      binary64.isNaN x.toDouble.toNat = (realFormat x.ty).isNaN x.toBits := by
  cases x with
  | f32 w =>
    have hlt := Ieee.Format.convert_binary64_lt w.toNat
    have hview : (f32 w).toDouble.toNat = binary32.convert binary64 w.toNat :=
      UInt64.toNat_ofNat_of_lt' hlt
    simp [hview, toBits, ty, realFormat]
  | f64 w => simp [toDouble, toBits, ty, realFormat]
  | _ => simp [ty, ScalarType.isReal] at hx

end Cast

end TypedJit.Machine

namespace TypedJit.Scalar

/-- Whether a real truncated toward zero is a value of the integer type `dst`: it is finite,
and its integer part lies in `dst`'s range. -/
def truncatesInto (x : Scalar) (dst : ScalarType) : Bool :=
  ((Machine.realFormat x.ty).truncate x.toBits).any fun n =>
    decide ((bounds dst).1 ≤ n ∧ n ≤ (bounds dst).2)

end TypedJit.Scalar

namespace TypedJit.Machine

open Scalar Ieee

section Cast

variable {x : Scalar} {dst : ScalarType}

/-- `fptosi` has a value exactly when the real truncates into the target type, and then it is
the dialect's conversion. -/
theorem castScalar_fptosi (hx : x.ty.isReal = true) (hd : dst.isInteger = true) :
    castScalar .fptosi x dst = if x.truncatesInto dst then some (x.cast dst) else none := by
  obtain ⟨htr, hnan⟩ := toDouble_truncate hx
  have hne : x.ty ≠ dst := by rintro rfl; revert hx hd; cases x.ty <;> decide
  have hdb : dst ≠ .bool := by rintro rfl; simp [ScalarType.isInteger] at hd
  have hcast : x.cast dst = ofInt dst
      (binary64.truncateSat (bounds dst).1 (bounds dst).2 x.toDouble.toNat) := by
    cases dst <;> simp_all [Scalar.cast, ScalarType.isInteger]
  simp only [castScalar, truncatesInto]
  obtain ht | ⟨n, ht⟩ : (realFormat x.ty).truncate x.toBits = none ∨
      ∃ n, (realFormat x.ty).truncate x.toBits = some n := by
    cases (realFormat x.ty).truncate x.toBits <;> simp
  · simp [ht]
  · by_cases hr : (bounds dst).1 ≤ n ∧ n ≤ (bounds dst).2
    · rw [hcast, Ieee.Format.truncateSat_of_truncate (htr.trans ht) hr.1 hr.2]
      simp [ht, hr]
    · simp [ht, hr]

end Cast

/-! ## Comparisons with zero, which convert to Bool -/

section Truth

variable {x : Scalar}

theorem holds_ne_zero (hx : x.ty.isInteger = true) : IntPred.holds .ne x (Scalar.zero x.ty) = x.truthy := by
  have h0 := toInt_zero hx
  cases x <;> simp_all [IntPred.holds, truthy, ty, ScalarType.isInteger]

/-- A real differs from zero, unordered, exactly when it is truthy; a NaN is. -/
theorem holds_une_zero (hx : x.ty.isReal = true) : RealPred.holds .une x (Scalar.zero x.ty) = x.truthy := by
  cases x with
  | f32 w =>
    have hz : (Scalar.zero .float).toDouble.toNat = 0 := by decide
    have hlt := Ieee.Format.convert_binary64_lt w.toNat
    have hview : (f32 w).toDouble.toNat = binary32.convert binary64 w.toNat :=
      UInt64.toNat_ofNat_of_lt' hlt
    simp only [RealPred.holds, ty, hz, hview, Format.binary64_compare_zero, truthy,
      Format.isNaN_convert_binary64, Format.isZero_convert_binary64]
    cases h : binary32.isNaN w.toNat
    · simp
    · simp [Format.isZero_of_isNaN h]
  | f64 w =>
    have hz : (Scalar.zero .double).toDouble.toNat = 0 := by decide
    have hview : (f64 w).toDouble = w := rfl
    simp only [RealPred.holds, ty, hz, hview, Format.binary64_compare_zero, truthy]
    cases h : binary64.isNaN w.toNat
    · simp
    · simp [Format.isZero_of_isNaN h]
  | _ => simp [ty, ScalarType.isReal] at hx

end Truth

end TypedJit.Machine

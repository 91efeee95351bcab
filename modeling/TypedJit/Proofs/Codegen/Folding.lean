import TypedJit.Proofs.Machine.Operators
import TypedJit.Codegen.Expr

/-!
Operators the code generator folds against the reference interpreter.
-/

namespace TypedJit

/-- Whether the integer instruction for `op` has a value on `a` and `b`: a divisor is nonzero and
does not divide the least value by `-1`, and a shift amount lies in `[0, width)`. -/
def BinOp.definedOn (op : BinOp) (a b : Scalar) : Prop :=
  a.ty.isInteger = true →
    match op with
    | .div | .mod => b.toInt ≠ 0 ∧ ¬(a.toInt = (Scalar.bounds a.ty).1 ∧ b.toInt = -1)
    | .shl | .shr => 0 ≤ b.toInt ∧ b.toInt < a.ty.bits
    | _ => True

end TypedJit

namespace TypedJit.Codegen

open Machine Scalar

/-- What generating an operation on constants gives against the interpreter's result: the
constant the interpreter computes, or the error the interpreter rejects the operation with. -/
def FoldsTo (g : Gen Operand) (r : Except RunError Scalar) : Prop :=
  (∃ v, r = .ok v ∧ g = pure (.const (.scalar v))) ∨ (∃ e, r = .error (.compile e) ∧ g = throw e)

theorem FoldsTo.of_fold {g : Gen Operand} {r : Except RunError Scalar} {v : Scalar}
    (hg : g = pure (.const (.scalar v))) (hr : r = .ok v) : FoldsTo g r :=
  .inl ⟨v, hr, hg⟩

theorem FoldsTo.of_reject {g : Gen Operand} {r : Except RunError Scalar} {e : CompileError}
    (hg : g = throw e) (hr : r = .error (.compile e)) : FoldsTo g r :=
  .inr ⟨e, hr, hg⟩

section Builders

variable {a b : Scalar}

theorem icmp_const (p : IntPred) (w w' : Word) :
    icmp p (.const w) (.const w') = pure (.const (icmpWord p w w')) := rfl

theorem fcmp_const (p : RealPred) (w w' : Word) :
    fcmp p (.const w) (.const w') = pure (.const (fcmpWord p w w')) := rfl

theorem castOp_const (op : CastOp) (w : Word) (t : Mty) :
    castOp op (.const w) t = pure (.const (castWord op w t)) := rfl

theorem fneg_const (w : Word) : fneg (.const w) = pure (.const (negWord w)) := rfl

/-- Masking with all ones keeps a word, as the `and` the generator skips would. -/
theorem binaryScalar_and_allOnes (hb : b.ty = a.ty) (h : isAllOnesInt (.scalar b) = true) :
    Machine.binaryScalar .and a b = some a := by
  simp only [isAllOnesInt, Bool.and_eq_true, Bool.not_eq_true', beq_iff_eq] at h
  have ha : a.ty.isReal = false := hb ▸ h.1
  have hones : b.toBits = 2 ^ a.ty.bits - 1 := by rw [← hb, ← Nat.pow_eq]; omega
  simp [Machine.binaryScalar, hb, ha, BinaryOp.isReal, intBinary, hones,
    Nat.and_two_pow_sub_one_eq_mod, Nat.mod_eq_of_lt (toBits_lt_two_pow ha), wrap_toBits ha]

/-- Or with zero keeps a word, as the `or` the generator skips would. -/
theorem binaryScalar_or_null (hb : b.ty = a.ty) (h : isNullInt (.scalar b) = true) :
    Machine.binaryScalar .or a b = some a := by
  simp only [isNullInt, Bool.and_eq_true, Bool.not_eq_true', beq_iff_eq] at h
  have ha : a.ty.isReal = false := hb ▸ h.1
  simp [Machine.binaryScalar, hb, ha, BinaryOp.isReal, intBinary, h.2, wrap_toBits ha]

/-- On two constant scalars of one type, an operator folds to the word its instruction gives,
the skipped `x & -1` and `x | 0` included. -/
theorem binary_const (hb : b.ty = a.ty) (m : BinaryOp) :
    binary m (.const (.scalar a)) (.const (.scalar b)) =
      pure (.const (binaryWord m (.scalar a) (.scalar b))) := by
  cases m with
  | and =>
    by_cases h : isAllOnesInt (.scalar b) = true
    · simp [binary, h, binaryWord, binaryScalar_and_allOnes hb h]
    · simp [binary, h, binary.folded]
  | or =>
    by_cases h : isNullInt (.scalar b) = true
    · simp [binary, h, binaryWord, binaryScalar_or_null hb h]
    · simp [binary, h, binary.folded]
  | _ => rfl

end Builders

end TypedJit.Codegen

namespace TypedJit

open Scalar

variable {a b : Scalar}

/-- The interpreter computes an integer operator on 64-bit words and casts the result back. -/
theorem binaryScalar_of_isInteger (ha : a.ty.isInteger = true) (op : BinOp) (span : Span) :
    binaryScalar op a b span =
      (binaryScalar op (.i64 (Int64.ofInt a.toInt)) (.i64 (Int64.ofInt b.toInt)) span).map
        (·.cast a.ty) := by
  have hcast (r : Int64) : (Scalar.i64 r).cast .int64 = .i64 r := by simp [Scalar.cast, ty]
  cases a <;> simp only [ty, ScalarType.isInteger, Bool.false_eq_true] at ha <;>
    cases op <;> simp [binaryScalar, ty, ScalarType.isBool, ScalarType.isReal, toInt, hcast,
      Except.map, -Int64.toInt_ofInt] <;> split <;> rfl

section Integer

open Codegen Machine

variable {a b : Scalar}

/-- The least value of an integer type is the machine's. -/
theorem bounds_fst_eq_intMin {s : ScalarType} (hs : s.isInteger = true) :
    (Scalar.bounds s).1 = intMin s := by
  cases s <;> simp_all [ScalarType.isInteger] <;> rfl

/-- On integers, an operator whose instruction has value `v` folds to it, and the interpreter
computes it too. -/
theorem foldsTo_of_intBinary (ha : a.ty.isInteger = true) (hb : b.ty = a.ty) {op : BinOp}
    {span : Span} {m : BinaryOp} {v : Scalar} (hm : m.isReal = false)
    (hk : kindBinary a.ty op (.const (.scalar a)) (.const (.scalar b)) span =
      binary m (.const (.scalar a)) (.const (.scalar b)))
    (hv : intBinary m a.ty a b = some v) (hi : binaryScalar op a b span = .ok v) :
    FoldsTo (kindBinary a.ty op (.const (.scalar a)) (.const (.scalar b)) span)
      (binaryScalar op a b span) := by
  have hr : a.ty.isReal = false := by revert ha; cases a.ty <;> decide
  refine .inl ⟨v, hi, ?_⟩
  rw [hk, binary_const hb, binaryWord, binaryScalar_of_not_isReal hr hb hm, hv]
  rfl

/-- On integers, an operator whose instruction has no value folds to poison. -/
theorem kindBinary_poison (ha : a.ty.isInteger = true) (hb : b.ty = a.ty) {op : BinOp}
    {span : Span} {m : BinaryOp} (hm : m.isReal = false)
    (hk : kindBinary a.ty op (.const (.scalar a)) (.const (.scalar b)) span =
      binary m (.const (.scalar a)) (.const (.scalar b)))
    (hv : intBinary m a.ty a b = none) :
    kindBinary a.ty op (.const (.scalar a)) (.const (.scalar b)) span = pure (.const .poison) := by
  have hr : a.ty.isReal = false := by revert ha; cases a.ty <;> decide
  rw [hk, binary_const hb, binaryWord, binaryScalar_of_not_isReal hr hb hm, hv]
  rfl

/-- Integers: where the instruction is defined the generator folds to the interpreter's
64-bit result cut to width; where it is not the generator folds to poison. -/
theorem kindBinary_integer (ha : a.ty.isInteger = true) (hb : b.ty = a.ty) (op : BinOp)
    (span : Span) :
    (op.definedOn a b → FoldsTo (kindBinary a.ty op (.const (.scalar a)) (.const (.scalar b)) span)
      (binaryScalar op a b span)) ∧
    (¬op.definedOn a b →
      kindBinary a.ty op (.const (.scalar a)) (.const (.scalar b)) span = pure (.const .poison)) := by
  have hbool : a.ty.isBool = false := by revert ha; cases a.ty <;> decide
  have hreal : a.ty.isReal = false := by revert ha; cases a.ty <;> decide
  have hcast (r : Int64) : (Scalar.i64 r).cast .int64 = .i64 r := by simp [Scalar.cast, ty]
  have hti (r : Int64) : (Scalar.i64 r).toInt = r.toInt := rfl
  have hb' : b.ty.isInteger = true := hb ▸ ha
  have htotal : ∀ {op : BinOp}, ¬op.definedOn a b → op = .div ∨ op = .mod ∨ op = .shl ∨ op = .shr :=
    fun {op} h => by cases op <;> simp_all [BinOp.definedOn]
  -- the interpreter's result, from its 64-bit computation
  have hint : ∀ {op : BinOp} {r : Int64}, binaryScalar op (.i64 (Int64.ofInt a.toInt))
      (.i64 (Int64.ofInt b.toInt)) span = .ok (.i64 r) →
      binaryScalar op a b span = .ok ((Scalar.i64 r).cast a.ty) := fun {op r} h => by
    rw [binaryScalar_of_isInteger ha, h]
    rfl
  -- a shift is defined exactly when its amount, as a pattern, is below the width
  have hshift : (0 ≤ b.toInt ∧ b.toInt < a.ty.bits) ↔ b.toBits < a.ty.bits := by
    rw [← hb, toBits_lt_bits_iff hb']
  have hquot : (b.toInt ≠ 0 ∧ ¬(a.toInt = (Scalar.bounds a.ty).1 ∧ b.toInt = -1)) ↔
      undefinedQuotient a.ty a.toInt b.toInt = false := by
    simp [undefinedQuotient, bounds_fst_eq_intMin ha]
  have hy : b.toInt ≠ 0 → Int64.ofInt b.toInt ≠ 0 := fun hne h =>
    hne (by rw [← toInt_ofInt64 hb', h]; rfl)
  cases op with
  | add =>
    refine ⟨fun _ => foldsTo_of_intBinary ha hb rfl ?_ (intBinary_add ha) (hint ?_),
      fun h => by simpa using htotal h⟩
    · unfold kindBinary; simp [hbool, hreal]
    · simp [binaryScalar, ty, ScalarType.isBool, ScalarType.isReal, hti, hcast, Except.map,
        -Int64.toInt_ofInt]
  | sub =>
    refine ⟨fun _ => foldsTo_of_intBinary ha hb rfl ?_ (intBinary_sub ha) (hint ?_),
      fun h => by simpa using htotal h⟩
    · unfold kindBinary; simp [hbool, hreal]
    · simp [binaryScalar, ty, ScalarType.isBool, ScalarType.isReal, hti, hcast, Except.map,
        -Int64.toInt_ofInt]
  | mul =>
    refine ⟨fun _ => foldsTo_of_intBinary ha hb rfl ?_ (intBinary_mul ha) (hint ?_),
      fun h => by simpa using htotal h⟩
    · unfold kindBinary; simp [hbool, hreal]
    · simp [binaryScalar, ty, ScalarType.isBool, ScalarType.isReal, hti, hcast, Except.map,
        -Int64.toInt_ofInt]
  | div =>
    have hk : kindBinary a.ty .div (.const (.scalar a)) (.const (.scalar b)) span =
        binary .sdiv (.const (.scalar a)) (.const (.scalar b)) := by
      unfold kindBinary; simp [hbool, hreal]
    refine ⟨fun hdef => ?_, fun hndef => kindBinary_poison ha hb rfl hk ?_⟩
    · have hdef := hdef ha
      have hq := hquot.1 hdef
      refine foldsTo_of_intBinary ha hb rfl hk (intBinary_sdiv ha hb hq) (hint ?_)
      simp [binaryScalar, ty, ScalarType.isBool, ScalarType.isReal, hti, hcast, Except.map,
        -Int64.toInt_ofInt, hy hdef.1]
    · have hq : undefinedQuotient a.ty a.toInt b.toInt = true := by
        rw [← Bool.not_eq_false, ← hquot]
        exact fun h => hndef fun _ => h
      simp [intBinary, hq]
  | mod =>
    have hk : kindBinary a.ty .mod (.const (.scalar a)) (.const (.scalar b)) span =
        binary .srem (.const (.scalar a)) (.const (.scalar b)) := by
      unfold kindBinary; simp [hbool, hreal]
    refine ⟨fun hdef => ?_, fun hndef => kindBinary_poison ha hb rfl hk ?_⟩
    · have hdef := hdef ha
      have hq := hquot.1 hdef
      refine foldsTo_of_intBinary ha hb rfl hk (intBinary_srem ha hb hq) (hint ?_)
      simp [binaryScalar, ty, ScalarType.isBool, ScalarType.isReal, hti, hcast, Except.map,
        -Int64.toInt_ofInt, hy hdef.1]
    · have hq : undefinedQuotient a.ty a.toInt b.toInt = true := by
        rw [← Bool.not_eq_false, ← hquot]
        exact fun h => hndef fun _ => h
      simp [intBinary, hq]
  | bitAnd =>
    have hv : intBinary .and a.ty a b =
        some ((Scalar.i64 (Int64.ofInt a.toInt &&& Int64.ofInt b.toInt)).cast a.ty) :=
      intBinary_bitwise ha hb rfl (fun _ _ _ => Nat.and_mod_two_pow) (int64_and_modEq _ _)
    refine ⟨fun _ => foldsTo_of_intBinary ha hb rfl ?_ hv (hint ?_),
      fun h => by simpa using htotal h⟩
    · unfold kindBinary; simp [hbool, hreal]
    · simp [binaryScalar, ty, ScalarType.isBool, ScalarType.isReal, hti, hcast, Except.map,
        -Int64.toInt_ofInt]
  | bitOr =>
    have hv : intBinary .or a.ty a b =
        some ((Scalar.i64 (Int64.ofInt a.toInt ||| Int64.ofInt b.toInt)).cast a.ty) :=
      intBinary_bitwise ha hb rfl (fun _ _ _ => Nat.or_mod_two_pow) (int64_or_modEq _ _)
    refine ⟨fun _ => foldsTo_of_intBinary ha hb rfl ?_ hv (hint ?_),
      fun h => by simpa using htotal h⟩
    · unfold kindBinary; simp [hbool, hreal]
    · simp [binaryScalar, ty, ScalarType.isBool, ScalarType.isReal, hti, hcast, Except.map,
        -Int64.toInt_ofInt]
  | bitXor =>
    have hv : intBinary .xor a.ty a b =
        some ((Scalar.i64 (Int64.ofInt a.toInt ^^^ Int64.ofInt b.toInt)).cast a.ty) :=
      intBinary_bitwise ha hb rfl (fun _ _ _ => Nat.xor_mod_two_pow) (int64_xor_modEq _ _)
    refine ⟨fun _ => foldsTo_of_intBinary ha hb rfl ?_ hv (hint ?_),
      fun h => by simpa using htotal h⟩
    · unfold kindBinary; simp [hbool, hreal]
    · simp [binaryScalar, ty, ScalarType.isBool, ScalarType.isReal, hti, hcast, Except.map,
        -Int64.toInt_ofInt]
  | shl =>
    have hk : kindBinary a.ty .shl (.const (.scalar a)) (.const (.scalar b)) span =
        binary .shl (.const (.scalar a)) (.const (.scalar b)) := by
      unfold kindBinary; simp [hbool, hreal]
    refine ⟨fun hdef => ?_, fun hndef => kindBinary_poison ha hb rfl hk ?_⟩
    · refine foldsTo_of_intBinary ha hb rfl hk (intBinary_shl ha hb (hshift.1 (hdef ha)))
        (hint ?_)
      simp [binaryScalar, ty, ScalarType.isBool, ScalarType.isReal, hti, hcast, Except.map,
        -Int64.toInt_ofInt]
    · have hge : a.ty.bits ≤ b.toBits := Nat.le_of_not_lt fun h => hndef fun _ => hshift.2 h
      simp [intBinary, hge]
  | shr =>
    have hk : kindBinary a.ty .shr (.const (.scalar a)) (.const (.scalar b)) span =
        binary .ashr (.const (.scalar a)) (.const (.scalar b)) := by
      unfold kindBinary; simp [hbool, hreal]
    refine ⟨fun hdef => ?_, fun hndef => kindBinary_poison ha hb rfl hk ?_⟩
    · refine foldsTo_of_intBinary ha hb rfl hk (intBinary_ashr ha hb (hshift.1 (hdef ha)))
        (hint ?_)
      simp [binaryScalar, ty, ScalarType.isBool, ScalarType.isReal, hti, hcast, Except.map,
        -Int64.toInt_ofInt]
    · have hge : a.ty.bits ≤ b.toBits := Nat.le_of_not_lt fun h => hndef fun _ => hshift.2 h
      simp [intBinary, hge]

end Integer

section Kinds

open Codegen Machine

/-- Bool has `&`, `|` and `^`, on truth values; the generator and the interpreter reject the
rest alike. -/
theorem kindBinary_bool (x y : Bool) (op : BinOp) (span : Span) :
    FoldsTo (kindBinary .bool op (.const (.scalar (.bool x))) (.const (.scalar (.bool y))) span)
      (TypedJit.binaryScalar op (.bool x) (.bool y) span) := by
  have hsel : ∀ m : BinaryOp, binary m (.const (.scalar (.bool x))) (.const (.scalar (.bool y))) =
      pure (.const (binaryWord m (.scalar (.bool x)) (.scalar (.bool y)))) := binary_const rfl
  cases op with
  | bitAnd =>
    refine .inl ⟨.bool (x && y), rfl, ?_⟩
    unfold kindBinary
    simp only [ScalarType.isBool, hsel]
    cases x <;> cases y <;> rfl
  | bitOr =>
    refine .inl ⟨.bool (x || y), rfl, ?_⟩
    unfold kindBinary
    simp only [ScalarType.isBool, hsel]
    cases x <;> cases y <;> rfl
  | bitXor =>
    refine .inl ⟨.bool (x ^^ y), rfl, ?_⟩
    unfold kindBinary
    simp only [ScalarType.isBool, hsel]
    cases x <;> cases y <;> rfl
  | _ => exact .inr ⟨_, rfl, rfl⟩

/-- Two Floats combine in single precision, by the instruction of the operator. -/
theorem kindBinary_float (x y : UInt32) (op : BinOp) (span : Span) :
    FoldsTo (kindBinary .float op (.const (.scalar (.f32 x))) (.const (.scalar (.f32 y))) span)
      (TypedJit.binaryScalar op (.f32 x) (.f32 y) span) := by
  cases op with
  | add | sub | mul | div | mod =>
    refine .inl ⟨_, rfl, ?_⟩
    unfold kindBinary
    simp [ScalarType.isBool, ScalarType.isReal]
    rfl
  | _ => exact .inr ⟨_, rfl, rfl⟩

/-- Two Doubles combine in double precision, by the instruction of the operator. -/
theorem kindBinary_double (x y : UInt64) (op : BinOp) (span : Span) :
    FoldsTo (kindBinary .double op (.const (.scalar (.f64 x))) (.const (.scalar (.f64 y))) span)
      (TypedJit.binaryScalar op (.f64 x) (.f64 y) span) := by
  cases op with
  | add | sub | mul | div | mod =>
    refine .inl ⟨_, rfl, ?_⟩
    unfold kindBinary
    simp [ScalarType.isBool, ScalarType.isReal]
    rfl
  | _ => exact .inr ⟨_, rfl, rfl⟩

/-- The binary operators: where the instruction is defined the generator folds to the
interpreter's value or both reject the operator with one error; where it is not, the generator
folds to poison. -/
theorem kindBinary_folds (op : BinOp) (a b : Scalar) (span : Span) (hb : b.ty = a.ty) :
    (op.definedOn a b → FoldsTo (kindBinary a.ty op (.const (.scalar a)) (.const (.scalar b)) span)
      (TypedJit.binaryScalar op a b span)) ∧
    (¬op.definedOn a b →
      kindBinary a.ty op (.const (.scalar a)) (.const (.scalar b)) span = pure (.const .poison)) := by
  by_cases ha : a.ty.isInteger = true
  · exact kindBinary_integer ha hb op span
  · have hdef : op.definedOn a b := fun h => absurd h ha
    refine ⟨fun _ => ?_, fun h => absurd hdef h⟩
    cases a with
    | bool x =>
      cases b <;> simp [ty] at hb
      exact kindBinary_bool x _ op span
    | f32 x =>
      cases b <;> simp [ty] at hb
      exact kindBinary_float x _ op span
    | f64 x =>
      cases b <;> simp [ty] at hb
      exact kindBinary_double x _ op span
    | _ => simp [ty, ScalarType.isInteger] at ha

/-- A comparison the generator makes with an ordered or unordered real predicate folds to what
the predicate says. -/
theorem foldsTo_fcmp {op : CmpOp} {a b : Scalar} {span : Span} {p : RealPred}
    (hk : kindCompare a.ty op (.const (.scalar a)) (.const (.scalar b)) span =
      fcmp p (.const (.scalar a)) (.const (.scalar b)))
    (hi : compareScalar op a b span = .ok (p.holds a b)) :
    FoldsTo (kindCompare a.ty op (.const (.scalar a)) (.const (.scalar b)) span)
      (Scalar.bool <$> compareScalar op a b span) :=
  .of_fold (by rw [hk]; rfl) (by rw [hi]; rfl)

/-- A comparison the generator makes with a signed integer predicate folds to what the
predicate says. -/
theorem foldsTo_icmp {op : CmpOp} {a b : Scalar} {span : Span} {p : IntPred}
    (hk : kindCompare a.ty op (.const (.scalar a)) (.const (.scalar b)) span =
      icmp p (.const (.scalar a)) (.const (.scalar b)))
    (hi : compareScalar op a b span = .ok (p.holds a b)) :
    FoldsTo (kindCompare a.ty op (.const (.scalar a)) (.const (.scalar b)) span)
      (Scalar.bool <$> compareScalar op a b span) :=
  .of_fold (by rw [hk]; rfl) (by rw [hi]; rfl)

/-- Comparisons: Bool has `==` and `!=` on truth values, reals compare by the ordered
predicates and `!=` by the unordered one, integers signed. -/
theorem kindCompare_folds (op : CmpOp) (a b : Scalar) (span : Span) (hb : b.ty = a.ty) :
    FoldsTo (kindCompare a.ty op (.const (.scalar a)) (.const (.scalar b)) span)
      (Scalar.bool <$> compareScalar op a b span) := by
  by_cases hbool : a.ty.isBool = true
  · cases a <;> simp [ty, ScalarType.isBool] at hbool
    cases b <;> simp [ty] at hb
    rename_i x y
    cases op with
    | eq =>
      refine .of_fold (v := .bool (x == y)) ?_ rfl
      unfold kindCompare
      cases x <;> cases y <;> rfl
    | ne =>
      refine .of_fold (v := .bool (x != y)) ?_ rfl
      unfold kindCompare
      cases x <;> cases y <;> rfl
    | _ => exact .inr ⟨_, rfl, rfl⟩
  · by_cases hreal : a.ty.isReal = true
    · cases op <;> exact foldsTo_fcmp (by unfold kindCompare; simp [hbool, hreal]; rfl)
        (by unfold compareScalar; simp [hbool, hreal]; rfl)
    · cases op <;> exact foldsTo_icmp (by unfold kindCompare; simp [hbool, hreal]; rfl)
        (by unfold compareScalar; simp [hbool, hreal]; rfl)

/-- Integers: `+` keeps the value, `-` is subtraction from zero and `~` is `xor` with all ones,
each the interpreter's 64-bit result cut to width. -/
theorem kindUnary_integer {a : Scalar} (ha : a.ty.isInteger = true) (op : UnaryOp)
    (span : Span) :
    FoldsTo (kindUnary a.ty (.scalar a.ty) op (.const (.scalar a)) span)
      (unaryScalar op a span) := by
  have hbool : a.ty.isBool = false := by revert ha; cases a.ty <;> decide
  have hreal : a.ty.isReal = false := by revert ha; cases a.ty <;> decide
  have hnb : ∀ x, a ≠ .bool x := by rintro x rfl; simp [ty, ScalarType.isInteger] at ha
  cases op with
  | plus =>
    refine .of_fold (v := a) (by unfold kindUnary; simp [hbool]) ?_
    cases a <;> simp_all [unaryScalar]
  | neg =>
    refine .of_fold (v := (Scalar.i64 (-Int64.ofInt a.toInt)).cast a.ty) ?_ ?_
    · unfold kindUnary
      simp only [hbool, hreal, Bool.false_eq_true, if_false]
      simp only [valueType, Mty.ofTy, negate, Word.zeroOf, pure_bind]
      rw [binary_const (ty_zero a.ty).symm, binaryWord,
        binaryScalar_of_not_isReal (by rwa [ty_zero]) (ty_zero a.ty).symm rfl, ty_zero,
        intBinary_neg ha]
      rfl
    · cases a <;> simp_all [unaryScalar, ty, ScalarType.isInteger]
  | invert =>
    refine .of_fold (v := (Scalar.i64 (~~~Int64.ofInt a.toInt)).cast a.ty) ?_ ?_
    · unfold kindUnary
      simp only [hbool, hreal, Bool.false_eq_true, if_false]
      simp only [valueType, Mty.ofTy, invert, Word.allOnes, pure_bind]
      rw [binary_const (ty_ofInt _ _), binaryWord,
        binaryScalar_of_not_isReal hreal (ty_ofInt _ _) rfl, intBinary_not ha]
      rfl
    · cases a <;> simp_all [unaryScalar, ty, ScalarType.isInteger]
  | not =>
    refine .of_reject (by unfold kindUnary; simp [hbool, hreal]; rfl) ?_
    cases a <;> simp_all [unaryScalar, undefinedFor, ScalarType.kindName, ty]

/-- The unary operators: Bool has none, reals have `+` and `-`, integers `+`, `-` and `~`. -/
theorem kindUnary_folds (op : UnaryOp) (a : Scalar) (span : Span) :
    FoldsTo (kindUnary a.ty (.scalar a.ty) op (.const (.scalar a)) span)
      (unaryScalar op a span) := by
  cases a with
  | bool x => exact .of_reject (by unfold kindUnary; simp [ty, ScalarType.isBool]; rfl) rfl
  | f32 w =>
    cases op with
    | plus => exact .of_fold rfl rfl
    | neg => exact .of_fold rfl rfl
    | invert | not => exact .of_reject rfl rfl
  | f64 w =>
    cases op with
    | plus => exact .of_fold rfl rfl
    | neg => exact .of_fold rfl rfl
    | invert | not => exact .of_reject rfl rfl
  | i8 _ | i16 _ | i32 _ | i64 _ => exact kindUnary_integer rfl op span

end Kinds

section Conversions

open Codegen Machine

variable {x : Scalar} {dst : ScalarType}

/-- A conversion with a value gives that scalar, one without gives poison. -/
theorem castWord_scalar (op : CastOp) (x : Scalar) (dst : ScalarType) :
    castWord op (.scalar x) (.scalar dst) = ((Machine.castScalar op x dst).map .scalar).getD .poison :=
  rfl

/-- Distinct integer types have distinct widths. -/
theorem bits_ne_of_isInteger {s d : ScalarType} (hs : s.isInteger = true) (hd : d.isInteger = true)
    (hne : s ≠ d) : s.bits ≠ d.bits := by
  cases s <;> cases d <;> simp_all [ScalarType.isInteger, ScalarType.bits]

theorem isInteger_of_not_isReal {d : ScalarType} (hr : d.isReal = false) (hb : d ≠ .bool) :
    d.isInteger = true := by
  cases d <;> simp_all [ScalarType.isReal, ScalarType.isInteger]

/-- Converting a constant between scalar types folds to the dialect's cast, except that a real
that does not truncate into an integer target gives poison, as `fptosi` does. -/
theorem castScalar_folds (x : Scalar) (dst : ScalarType) :
    Codegen.castScalar (.const (.scalar x)) x.ty dst =
      pure (.const (if x.ty.isReal && dst.isInteger && !x.truncatesInto dst then .poison
        else .scalar (x.cast dst))) := by
  unfold Codegen.castScalar
  by_cases hsame : x.ty = dst
  · subst hsame
    have hexcl : (x.ty.isReal && x.ty.isInteger) = false := by cases x.ty <;> rfl
    simp [Scalar.cast, hexcl]
  simp only [hsame, if_false]
  by_cases hbool : dst = .bool
  · subst hbool
    have hnb : x.ty ≠ .bool := hsame
    cases hr : x.ty.isReal
    · have hi : x.ty.isInteger = true := isInteger_of_not_isReal hr hnb
      simp [icmp_const, icmpWord, holds_ne_zero hi, Scalar.cast, hnb, ScalarType.isInteger]
    · simp [fcmp_const, fcmpWord, holds_une_zero hr, Scalar.cast, hnb, ScalarType.isInteger]
  · simp only [hbool, if_false]
    cases hr : x.ty.isReal <;> cases hd : dst.isReal
    · -- integers and Bool into an integer
      have hdi := isInteger_of_not_isReal hd hbool
      by_cases hxb : x.ty = .bool
      · simp [hxb, castOp_const, castWord_scalar, castScalar_zext hxb hbool]
      · have hi := isInteger_of_not_isReal hr hxb
        simp only [hxb, if_false, bits_ne_of_isInteger hi hdi hsame, castOp_const]
        by_cases hlt : dst.bits < x.ty.bits
        · simp [hlt, castWord_scalar, castScalar_trunc hi hdi hlt]
        · simp [hlt, castWord_scalar, castScalar_sext hi hdi hsame]
    · -- integers and Bool into a real
      by_cases hxb : x.ty = .bool
      · simp [hxb, castOp_const, castWord_scalar, castScalar_uitofp hxb hbool]
      · have hi := isInteger_of_not_isReal hr hxb
        simp [hxb, castOp_const, castWord_scalar, castScalar_sitofp hi hd]
    · -- a real into an integer: `fptosi`
      have hdi := isInteger_of_not_isReal hd hbool
      simp only [castOp_const, castWord_scalar, castScalar_fptosi hr hdi, hdi, Bool.true_and]
      cases x.truncatesInto dst <;> rfl
    · -- between the reals
      have hdi : dst.isInteger = false := by revert hd; cases dst <;> decide
      simp only [castOp_const, hdi, Bool.true_and, Bool.false_and]
      split <;> rfl

/-- A constant converted to a scalar type is folded with the dialect's cast itself. -/
theorem castValue_const (x : Scalar) (dst : ScalarType) (span : Span) :
    castValue (.const x) (.scalar dst) span = pure (.const (.scalar (x.cast dst))) := by
  simp [castValue, castable, TValue.ty]

end Conversions

open Codegen in
/-- The generator's scalar instructions, evaluated on constants as it folds them, against the
reference interpreter. A conversion folds to the dialect's cast, which also folds a constant
operand of `castValue`, except that `fptosi` is poison on a real that does not truncate into its
target; binary operators, comparisons and unary operators fold to the interpreter's value
wherever the instruction is defined, and are rejected by both with one error otherwise. -/
theorem scalar_instructions_agree :
    (∀ (x : Scalar) (dst : ScalarType) (span : Span),
      castValue (.const x) (.scalar dst) span = pure (.const (.scalar (x.cast dst))) ∧
      Codegen.castScalar (.const (.scalar x)) x.ty dst =
        pure (.const (if x.ty.isReal && dst.isInteger && !x.truncatesInto dst then .poison
          else .scalar (x.cast dst)))) ∧
    (∀ (op : BinOp) (a b : Scalar) (span : Span), b.ty = a.ty →
      (op.definedOn a b → FoldsTo (kindBinary a.ty op (.const (.scalar a)) (.const (.scalar b)) span)
        (TypedJit.binaryScalar op a b span)) ∧
      (¬op.definedOn a b →
        kindBinary a.ty op (.const (.scalar a)) (.const (.scalar b)) span = pure (.const .poison))) ∧
    (∀ (op : CmpOp) (a b : Scalar) (span : Span), b.ty = a.ty →
      FoldsTo (kindCompare a.ty op (.const (.scalar a)) (.const (.scalar b)) span)
        (Scalar.bool <$> compareScalar op a b span)) ∧
    (∀ (op : UnaryOp) (a : Scalar) (span : Span),
      FoldsTo (kindUnary a.ty (.scalar a.ty) op (.const (.scalar a)) span)
        (unaryScalar op a span)) :=
  ⟨fun x dst span => ⟨castValue_const x dst span, castScalar_folds x dst⟩, kindBinary_folds,
    kindCompare_folds, kindUnary_folds⟩

end TypedJit

import TypedJit.Proofs.Codegen.Triple

/-!
Straight-line code generation.
-/

namespace TypedJit.Codegen

open Std.Do Machine

set_option mvcgen.warning false

/-- An instruction that is not a call. -/
def CallFree (i : Inst) : Prop := ∀ d sym sig args, i ≠ .call d sym sig args

/-- An instruction that neither calls nor ends its block. -/
def Plain (i : Inst) : Prop := CallFree i ∧ i.isTerminator = false

/-- The state after `i` is appended to the current block. -/
def GenState.emitted (s : GenState) (i : Inst) : GenState :=
  { s with blocks := s.blocks.modify s.current fun b => { b with insts := b.insts.push i } }

/-- A state predicate kept by the straight-line steps of the generator. -/
structure Straight where
  holds : GenState → Prop
  fresh : ∀ s, holds s → holds { s with nextReg := s.nextReg + 1 }
  emit : ∀ s i, holds s → Plain i → holds (s.emitted i)
  alloca : ∀ s r t, holds s →
    holds { s with entryPrefix := [.alloca r t, .store (.const (Word.zeroOf t)) (.reg r)] ++
      s.entryPrefix }

variable {L : Straight}

@[spec]
theorem fresh_keeps : Keeps L.holds fresh := by
  mvcgen [fresh]
  exact L.fresh _ ‹_›

theorem emit_keeps (i : Inst) (hi : Plain i) : Keeps L.holds (emit i) := by
  mvcgen [emit]
  exact L.emit _ i ‹_› hi

attribute [local spec] emit_keeps

@[spec]
theorem emitValue_keeps (mk : Nat → Inst) (hi : ∀ r, Plain (mk r)) :
    Keeps L.holds (emitValue mk) := by
  mvcgen [emitValue]
  exact hi _

@[spec]
theorem allocaFor_keeps (ty : Ty) (n : String) (sp : Span) : Keeps L.holds (allocaFor ty n sp) := by
  mvcgen [allocaFor, Gen.fail]
  exact L.alloca _ _ _ ‹_›

@[spec]
theorem binary_keeps (op : BinaryOp) (l r : Operand) : Keeps L.holds (binary op l r) := by
  unfold binary binary.folded
  mvcgen
  all_goals simp [Plain, CallFree, Inst.isTerminator]

@[spec]
theorem negate_keeps (t : Mty) (x : Operand) : Keeps L.holds (negate t x) := by
  mvcgen [negate]

@[spec]
theorem invert_keeps (t : Mty) (x : Operand) : Keeps L.holds (invert t x) := by
  mvcgen [invert]

@[spec]
theorem fneg_keeps (x : Operand) : Keeps L.holds (fneg x) := by
  mvcgen [fneg]
  all_goals simp [Plain, CallFree, Inst.isTerminator]

@[spec]
theorem icmp_keeps (p : IntPred) (l r : Operand) : Keeps L.holds (icmp p l r) := by
  mvcgen [icmp]
  all_goals simp [Plain, CallFree, Inst.isTerminator]

@[spec]
theorem fcmp_keeps (p : RealPred) (l r : Operand) : Keeps L.holds (fcmp p l r) := by
  mvcgen [fcmp]
  all_goals simp [Plain, CallFree, Inst.isTerminator]

@[spec]
theorem castOp_keeps (op : CastOp) (x : Operand) (t : Mty) : Keeps L.holds (castOp op x t) := by
  mvcgen [castOp]
  all_goals simp [Plain, CallFree, Inst.isTerminator]

@[spec]
theorem extract_keeps (v i : Operand) : Keeps L.holds (extract v i) := by
  mvcgen [extract]
  all_goals simp [Plain, CallFree, Inst.isTerminator]

@[spec]
theorem insert_keeps (v x i : Operand) : Keeps L.holds (insert v x i) := by
  mvcgen [insert]
  all_goals simp [Plain, CallFree, Inst.isTerminator]

@[spec]
theorem load_keeps (t : Mty) (p : Operand) : Keeps L.holds (load t p) := by
  mvcgen [load]
  all_goals simp [Plain, CallFree, Inst.isTerminator]

@[spec]
theorem store_keeps (v p : Operand) : Keeps L.holds (store v p) := by
  mvcgen [store]
  all_goals simp [Plain, CallFree, Inst.isTerminator]

@[spec]
theorem elementAddress_keeps (b i : Operand) : Keeps L.holds (elementAddress b i) := by
  mvcgen [elementAddress]
  all_goals simp [Plain, CallFree, Inst.isTerminator]

@[spec]
theorem decay_keeps (p : Operand) : Keeps L.holds (decay p) := by
  mvcgen [decay]
  all_goals simp [Plain, CallFree, Inst.isTerminator]

@[spec]
theorem valueType_keeps (ty : Ty) : Keeps L.holds (valueType ty) := by
  mvcgen [valueType, Gen.fail]

@[spec]
theorem slotLoad_keeps (sl : Slot) : Keeps L.holds sl.load := by
  mvcgen [Slot.load]

@[spec]
theorem slotStore_keeps (sl : Slot) (v : Operand) : Keeps L.holds (sl.store v) := by
  mvcgen [Slot.store, Gen.fail]

@[spec]
theorem materialize_keeps (v : TValue) : Keeps L.holds (materialize v) := by
  mvcgen [materialize, Gen.fail]

@[spec]
theorem castScalar_keeps (raw : Operand) (src dst : ScalarType) :
    Keeps L.holds (Codegen.castScalar raw src dst) := by
  unfold Codegen.castScalar
  mvcgen

@[spec]
theorem broadcast_keeps (lane : Operand) (e : ScalarType) (n : Nat) :
    Keeps L.holds (broadcast lane e n) := by
  mvcgen [broadcast] invariants
  · ⇓? _ s _ => ⌜L.holds s⌝
  exact id

@[spec]
theorem castValue_keeps (v : TValue) (t : Ty) (sp : Span) : Keeps L.holds (castValue v t sp) := by
  unfold castValue
  cases v.ty <;> cases t <;> mvcgen

@[spec]
theorem undefinedOperator_keeps {α : Type} (sym kind : String) (sp : Span) :
    Keeps L.holds (undefinedOperator sym kind sp : Gen α) := by
  mvcgen [undefinedOperator, Gen.fail]

@[spec]
theorem operandKindOf_keeps (ty : Ty) (sym : String) (sp : Span) :
    Keeps L.holds (operandKindOf ty sym sp) := by
  mvcgen [operandKindOf, Gen.fail]

@[spec]
theorem scalarElement_keeps (ty : Ty) (sp : Span) : Keeps L.holds (scalarElement ty sp) := by
  mvcgen [scalarElement, Gen.fail]

@[spec]
theorem commonType_keeps (l r : Ty) (sym : String) (sp : Span) :
    Keeps L.holds (commonType l r sym sp) := by
  mvcgen [commonType, Gen.fail]

@[spec]
theorem kindBinary_keeps (kind : ScalarType) (op : BinOp) (l r : Operand) (sp : Span) :
    Keeps L.holds (kindBinary kind op l r sp) := by
  unfold kindBinary
  mvcgen

@[spec]
theorem kindCompare_keeps (kind : ScalarType) (op : CmpOp) (l r : Operand) (sp : Span) :
    Keeps L.holds (kindCompare kind op l r sp) := by
  unfold kindCompare
  mvcgen

@[spec]
theorem kindUnary_keeps (kind : ScalarType) (ty : Ty) (op : UnaryOp) (v : Operand) (sp : Span) :
    Keeps L.holds (kindUnary kind ty op v sp) := by
  mvcgen [kindUnary]

@[spec]
theorem binaryValue_keeps (op : BinOp) (l r : TValue) (sp : Span) :
    Keeps L.holds (binaryValue op l r sp) := by
  mvcgen [binaryValue]

@[spec]
theorem toBool_keeps (v : TValue) (sp : Span) : Keeps L.holds (toBool v sp) := by
  mvcgen [toBool]

@[spec]
theorem constantValue_keeps (lit : Literal) (sp : Span) : Keeps L.holds (constantValue lit sp) := by
  mvcgen [constantValue, Gen.fail]

@[spec]
theorem indexValue_keeps (v : TValue) (sp : Span) : Keeps L.holds (indexValue v sp) := by
  mvcgen [indexValue, Gen.fail]

@[spec]
theorem nameValue_keeps (n : String) (sp : Span) : Keeps L.holds (nameValue n sp) := by
  mvcgen [nameValue, Gen.fail, Gen.lift]

end TypedJit.Codegen

import Mathlib.Order.Basic
import TypedJit.Proofs.Interpreter.Typing
import TypedJit.Proofs.Codegen.Straight

/-!
# The common type of two operands
-/

namespace TypedJit

namespace ScalarType

theorem rank_promote (a b : ScalarType) : (a.promote b).rank = max a.rank b.rank := by
  unfold promote
  split <;> omega

theorem promote_comm (a b : ScalarType) : a.promote b = b.promote a :=
  rank_injective (by rw [rank_promote, rank_promote, Nat.max_comm])

theorem promote_assoc (a b c : ScalarType) : (a.promote b).promote c = a.promote (b.promote c) :=
  rank_injective (by simp only [rank_promote, Nat.max_assoc])

@[simp] theorem promote_self (a : ScalarType) : a.promote a = a := by
  simp [promote]

end ScalarType

namespace Ty

/-- A type operators act on: a scalar or a vector. -/
def IsOperand (t : Ty) : Prop := t.operandKind.isSome

@[simp] theorem isOperand_scalar (s : ScalarType) : (Ty.scalar s).IsOperand := rfl
@[simp] theorem isOperand_vector (e : ScalarType) (n : Nat) : (Ty.vector e n).IsOperand := rfl

theorem IsOperand.cases {t : Ty} (h : t.IsOperand) :
    (∃ s, t = .scalar s) ∨ ∃ e n, t = .vector e n := by
  cases t <;> simp_all [IsOperand, operandKind]

theorem IsOperand.ne_void {t : Ty} (h : t.IsOperand) : t ≠ .void := by
  rintro rfl
  exact absurd h (by simp [IsOperand, operandKind])

end Ty

/-! ## Join laws -/

section Join

variable {a b c t : Ty}

@[simp] theorem coerce_scalar_scalar (x y : ScalarType) :
    coerce (.scalar x) (.scalar y) = some (.scalar (x.promote y)) := rfl
@[simp] theorem coerce_vector_scalar (e : ScalarType) (n : Nat) (s : ScalarType) :
    coerce (.vector e n) (.scalar s) = some (.vector e n) := rfl
@[simp] theorem coerce_scalar_vector (s : ScalarType) (e : ScalarType) (n : Nat) :
    coerce (.scalar s) (.vector e n) = some (.vector e n) := rfl
@[simp] theorem coerce_vector_vector (e e' : ScalarType) (n n' : Nat) :
    coerce (.vector e n) (.vector e' n') = if e = e' ∧ n = n' then some (.vector e n) else none :=
  rfl

theorem coerce_of_not_left (h : ¬a.IsOperand) (b : Ty) : coerce a b = none := by
  cases a <;> cases b <;> simp_all [coerce, Ty.IsOperand, Ty.operandKind]

theorem coerce_of_not_right (h : ¬b.IsOperand) (a : Ty) : coerce a b = none := by
  cases a <;> cases b <;> simp_all [coerce, Ty.IsOperand, Ty.operandKind]

/-- Only operands join, and what they join to is an operand. -/
theorem coerce_eq_some (h : coerce a b = some t) : a.IsOperand ∧ b.IsOperand ∧ t.IsOperand := by
  unfold coerce at h
  split at h <;> (try split at h) <;> cases h <;> simp

theorem coerce_comm (a b : Ty) : coerce a b = coerce b a := by
  by_cases ha : a.IsOperand
  case neg => rw [coerce_of_not_left ha, coerce_of_not_right ha]
  by_cases hb : b.IsOperand
  case neg => rw [coerce_of_not_right hb, coerce_of_not_left hb]
  rcases ha.cases with ⟨x, rfl⟩ | ⟨e, n, rfl⟩ <;> rcases hb.cases with ⟨y, rfl⟩ | ⟨e', n', rfl⟩
  · simp [ScalarType.promote_comm]
  · rfl
  · rfl
  · -- two vectors join exactly when they are equal, whichever comes first
    by_cases h : e = e' ∧ n = n'
    · obtain ⟨rfl, rfl⟩ := h
      rfl
    · rw [coerce_vector_vector, coerce_vector_vector, if_neg h, if_neg (by grind)]

theorem coerce_self (h : a.IsOperand) : coerce a a = some a := by
  rcases h.cases with ⟨s, rfl⟩ | ⟨e, n, rfl⟩ <;> simp

theorem coerce_assoc (a b c : Ty) :
    (coerce a b).bind (coerce · c) = (coerce b c).bind (coerce a ·) := by
  -- a type that is no operand makes both groupings undefined
  by_cases ha : a.IsOperand
  case neg => cases coerce b c <;> simp [coerce_of_not_left ha]
  by_cases hc : c.IsOperand
  case neg => cases coerce a b <;> simp [coerce_of_not_right hc]
  by_cases hb : b.IsOperand
  case neg => simp [coerce_of_not_left hb, coerce_of_not_right hb]
  rcases ha.cases with ⟨x, rfl⟩ | ⟨e, n, rfl⟩ <;> rcases hb.cases with ⟨y, rfl⟩ | ⟨e', n', rfl⟩ <;>
    rcases hc.cases with ⟨z, rfl⟩ | ⟨e'', n'', rfl⟩ <;>
    simp [ScalarType.promote_assoc] <;> split_ifs <;> simp_all

end Join

/-! ## Casts -/

theorem castable_refl (a : Ty) : castable a a = true := by
  simp [castable]

theorem castable_trans {a b c : Ty} (hab : castable a b = true) (hbc : castable b c = true) :
    castable a c = true := by
  cases a <;> cases b <;> simp [castable] at hab <;> cases c <;> simp [castable] at hbc ⊢ <;> grind

theorem castable_coerce {a b t : Ty} (h : coerce a b = some t) :
    castable a t = true ∧ castable b t = true := by
  unfold coerce at h
  split at h <;> (try split at h) <;> cases h <;> simp_all [castable]

/-- The interpreter converts every value to every type its own type casts to. -/
theorem Interpreter.castValue_of_castable (v : Value) {dst : Ty} (span : Span)
    (h : castable v.ty dst = true) : ∃ w, Interpreter.castValue v dst span = .ok w := by
  unfold Interpreter.castValue
  simp only [h, Bool.not_true, Bool.false_eq_true, if_false]
  split
  · exact ⟨_, rfl⟩
  · -- a pointer converts to any type; a scalar only to operands; a vector and Void only to themselves
    cases v with
    | scalar s => cases dst <;> simp_all [castable, Value.ty]
    | vector e lanes => simp_all [castable, Value.ty]
    | pointer t r o => exact ⟨_, rfl⟩
    | void => cases dst <;> simp_all [castable, Value.ty]

namespace Codegen

open Std.Do Machine

set_option mvcgen.warning false

/-- `x` runs to completion from every state: it never fails. -/
abbrev Total {α : Type} (x : Gen α) : Prop := ⦃⌜True⌝⦄ x ⦃⇓ _ => ⌜True⌝⦄

theorem total_iff_run {α : Type} (x : Gen α) :
    Total x ↔ ∀ s t, ∃ a s' t', (x.run s).run.run t = (.ok (a, s'), t') := by
  simp only [Total, Triple, wp, PredTrans.pushArg, PredTrans.pushExcept, PredTrans.apply,
    SPred.entails, StateT.run, Id.run, Pure.pure, PredTrans.pure]
  constructor
  · intro h s t
    have hpost := h s t trivial
    rcases hrun : (x s).run t with ⟨r, t'⟩
    rw [hrun] at hpost
    rcases r with e | ⟨a, s'⟩
    · simp [ExceptConds.false, ExceptConds.const] at hpost
    · exact ⟨a, s', t', rfl⟩
  · intro h s t _
    obtain ⟨a, s', t', hrun⟩ := h s t
    simp [hrun]

@[local spec high] theorem fresh_total : Total fresh := by
  mvcgen [fresh, -fresh_keeps]

@[local spec high] theorem emit_total (i : Inst) : Total (emit i) := by
  mvcgen [emit]

@[local spec high] theorem emitValue_total (mk : Nat → Inst) : Total (emitValue mk) := by
  mvcgen [emitValue, -emitValue_keeps]

@[local spec high] theorem binary_total (op : BinaryOp) (l r : Operand) : Total (binary op l r) := by
  unfold binary binary.folded
  mvcgen [-binary_keeps]

@[local spec high] theorem icmp_total (p : IntPred) (l r : Operand) : Total (icmp p l r) := by
  mvcgen [icmp, -icmp_keeps]

@[local spec high] theorem fcmp_total (p : RealPred) (l r : Operand) : Total (fcmp p l r) := by
  mvcgen [fcmp, -fcmp_keeps]

@[local spec high] theorem castOp_total (op : CastOp) (x : Operand) (t : Mty) : Total (castOp op x t) := by
  mvcgen [castOp, -castOp_keeps]

@[local spec high] theorem extract_total (v i : Operand) : Total (extract v i) := by
  mvcgen [extract, -extract_keeps]

@[local spec high] theorem insert_total (v x i : Operand) : Total (insert v x i) := by
  mvcgen [insert, -insert_keeps]

@[local spec high] theorem valueType_total (ty : Ty) : ⦃⌜ty ≠ .void⌝⦄ valueType ty ⦃⇓ _ => ⌜True⌝⦄ := by
  cases ty <;> mvcgen [valueType, Gen.fail, -valueType_keeps]

@[local spec high] theorem slotLoad_total (sl : Slot) : ⦃⌜sl.ty ≠ .void⌝⦄ sl.load ⦃⇓ _ => ⌜True⌝⦄ := by
  cases sl with
  | memory ty p => cases ty <;> mvcgen [Slot.load, load, decay, -slotLoad_keeps]
  | lane st vec idx =>
    -- a lane of a typed slot is read from a vector that has a machine type
    mvcgen [Slot.load, load, -slotLoad_keeps]
    rintro rfl
    simp_all [Slot.ty, Ty.element]

/-- Every value that has a type other than Void has an operand. -/
@[local spec high] theorem materialize_total (v : TValue) :
    ⦃⌜v.ty ≠ .void⌝⦄ materialize v ⦃⇓ _ => ⌜True⌝⦄ := by
  cases v with
  | var ty p => cases ty <;> mvcgen [materialize, load, decay, -materialize_keeps]
  | slot sl => mvcgen [materialize, -materialize_keeps]
  | _ => mvcgen [materialize, Gen.fail, -materialize_keeps]

@[local spec high] theorem castScalar_total (raw : Operand) (src dst : ScalarType) :
    Total (castScalar raw src dst) := by
  unfold castScalar
  mvcgen [-castScalar_keeps]

@[local spec high] theorem broadcast_total (lane : Operand) (e : ScalarType) (n : Nat) :
    Total (broadcast lane e n) := by
  mvcgen [broadcast, -broadcast_keeps] invariants
  · ⇓ _ => ⌜True⌝

/-- The generator converts every value to every type other than Void that its type casts to. -/
theorem castValue_total {v : TValue} {t : Ty} (span : Span) (h : castable v.ty t = true)
    (ht : t ≠ .void) : Total (castValue v t span) := by
  have hv : v.ty ≠ .void := by
    rintro hv
    rw [hv] at h
    cases t <;> simp_all [castable]
  unfold castValue
  mvcgen [-castValue_keeps]
  all_goals simp_all +zetaDelta

end Codegen

/-- `coerce` is a partial join and `castable` a preorder under it, so the operand conversions
after a successful `coerce` never fail, in the interpreter or in the generator. -/
theorem coerce_partial_join :
    (∀ a b : Ty, coerce a b = coerce b a) ∧
    (∀ a : Ty, a.IsOperand → coerce a a = some a) ∧
    (∀ a b c : Ty, (coerce a b).bind (coerce · c) = (coerce b c).bind (coerce a ·)) ∧
    (∀ a b t : Ty, coerce a b = some t →
      castable a t = true ∧ castable b t = true ∧ t.IsOperand) ∧
    (∀ a : Ty, castable a a = true) ∧
    (∀ a b c : Ty, castable a b = true → castable b c = true → castable a c = true) ∧
    (∀ (l r : Value) (t : Ty) (span : Span), coerce l.ty r.ty = some t →
      (∃ w, Interpreter.castValue l t span = .ok w) ∧
        ∃ w, Interpreter.castValue r t span = .ok w) ∧
    (∀ (l r : Codegen.TValue) (t : Ty) (span : Span), coerce l.ty r.ty = some t →
      ∀ st stats,
        (∃ o st' stats', ((Codegen.castValue l t span).run st).run.run stats =
          (.ok (o, st'), stats')) ∧
        ∃ o st' stats', ((Codegen.castValue r t span).run st).run.run stats =
          (.ok (o, st'), stats')) := by
  refine ⟨coerce_comm, fun _ => coerce_self, coerce_assoc,
    fun _ _ _ h => ⟨(castable_coerce h).1, (castable_coerce h).2, (coerce_eq_some h).2.2⟩,
    castable_refl, fun _ _ _ => castable_trans, ?_, ?_⟩
  · intro l r t span h
    exact ⟨Interpreter.castValue_of_castable l span (castable_coerce h).1,
      Interpreter.castValue_of_castable r span (castable_coerce h).2⟩
  · intro l r t span h st stats
    have ht := (coerce_eq_some h).2.2.ne_void
    exact ⟨(Codegen.total_iff_run _).1 (Codegen.castValue_total span (castable_coerce h).1 ht) st stats,
      (Codegen.total_iff_run _).1 (Codegen.castValue_total span (castable_coerce h).2 ht) st stats⟩

end TypedJit

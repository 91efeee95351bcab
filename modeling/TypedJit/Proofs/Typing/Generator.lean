import TypedJit.Proofs.Typing.Rules
import TypedJit.Proofs.Codegen.Returns
import TypedJit.Proofs.Types.Coerce
import TypedJit.Proofs.Codegen.Folding

/-!
# The code generator types expressions by the rules
-/

namespace TypedJit.Codegen

open Std.Do Machine

set_option mvcgen.warning false

/-- The scope is `sc`: expression generation never changes it. -/
def scopeIs (sc : Scope Nat) : Straight where
  holds s := s.scope = sc
  fresh _ h := h
  emit _ _ h _ := h
  alloca _ _ _ h := h

/-! ## The checks of the building blocks -/

section Checks

variable {L : Straight}

@[local spec high]
theorem commonType_coerce (l r : Ty) (sym : String) (sp : Span) :
    ⦃fun s _ => ⌜L.holds s⌝⦄ commonType l r sym sp
    ⦃⇓? t s _ => ⌜L.holds s ∧ coerce l r = some t⌝⦄ := by
  mvcgen [commonType, Gen.fail, -commonType_keeps]

@[local spec high]
theorem operandKindOf_kind (ty : Ty) (sym : String) (sp : Span) :
    ⦃fun s _ => ⌜L.holds s⌝⦄ operandKindOf ty sym sp
    ⦃⇓? k s _ => ⌜L.holds s ∧ ty.operandKind = some k⌝⦄ := by
  mvcgen [operandKindOf, Gen.fail, -operandKindOf_keeps]

/-- A conversion succeeds only between types that cast. -/
@[local spec high]
theorem castValue_castable (v : TValue) (t : Ty) (sp : Span) :
    ⦃fun s _ => ⌜L.holds s⌝⦄ castValue v t sp ⦃⇓? _ s _ => ⌜L.holds s ∧ castable v.ty t = true⌝⦄ := by
  have hk := castValue_keeps (L := L) v t sp
  rw [Keeps, triple_iff_run] at hk
  rw [triple_iff_run]
  intro s st a s' st' hs hrun
  refine ⟨hk s st a s' st' hs hrun, ?_⟩
  -- a run that fails the check throws at once
  cases hc : castable v.ty t
  · simp [castValue, hc] at hrun
    cases hrun
  · rfl

@[local spec high]
theorem toBool_castable (v : TValue) (sp : Span) :
    ⦃fun s _ => ⌜L.holds s⌝⦄ toBool v sp
    ⦃⇓? _ s _ => ⌜L.holds s ∧ castable v.ty (.scalar .bool) = true⌝⦄ := by
  mvcgen [toBool, -toBool_keeps]

@[local spec high]
theorem kindBinary_applies (kind : ScalarType) (op : BinOp) (l r : Operand) (sp : Span) :
    ⦃fun s _ => ⌜L.holds s⌝⦄ kindBinary kind op l r sp
    ⦃⇓? _ s _ => ⌜L.holds s ∧ op.appliesTo kind = true⌝⦄ := by
  unfold kindBinary
  mvcgen [-kindBinary_keeps, -undefinedOperator_keeps, undefinedOperator, Gen.fail]
  all_goals simp_all [BinOp.appliesTo]

@[local spec high]
theorem kindCompare_applies (kind : ScalarType) (op : CmpOp) (l r : Operand) (sp : Span) :
    ⦃fun s _ => ⌜L.holds s⌝⦄ kindCompare kind op l r sp
    ⦃⇓? _ s _ => ⌜L.holds s ∧ op.appliesTo kind = true⌝⦄ := by
  unfold kindCompare
  mvcgen [-kindCompare_keeps, -undefinedOperator_keeps, undefinedOperator, Gen.fail]
  all_goals simp_all [CmpOp.appliesTo]

@[local spec high]
theorem kindUnary_applies (kind : ScalarType) (ty : Ty) (op : UnaryOp) (v : Operand) (sp : Span) :
    ⦃fun s _ => ⌜L.holds s⌝⦄ kindUnary kind ty op v sp
    ⦃⇓? _ s _ => ⌜L.holds s ∧ op.appliesTo kind = true⌝⦄ := by
  mvcgen [kindUnary, -kindUnary_keeps, -undefinedOperator_keeps, undefinedOperator, Gen.fail]
  all_goals simp_all [UnaryOp.appliesTo, ScalarType.isInteger_iff]

@[local spec high]
theorem binaryValue_typed (op : BinOp) (l r : TValue) (sp : Span) :
    ⦃fun s _ => ⌜L.holds s⌝⦄ binaryValue op l r sp
    ⦃⇓? v s _ => ⌜L.holds s ∧ ∃ k, coerce l.ty r.ty = some v.ty ∧ v.ty.operandKind = some k ∧
      op.appliesTo k = true⌝⦄ := by
  mvcgen [binaryValue, -binaryValue_keeps]
  all_goals simp_all [TValue.ty]

@[local spec high]
theorem constantValue_typed (lit : Literal) (sp : Span) :
    ⦃fun s _ => ⌜L.holds s⌝⦄ constantValue lit sp
    ⦃⇓? v s _ => ⌜L.holds s ∧ ∃ k, lit.scalarType? = some k ∧ v.ty = .scalar k⌝⦄ := by
  mvcgen [constantValue, Gen.fail, -constantValue_keeps]
  all_goals simp_all [TValue.ty, ← Literal.toScalar?_ty]

@[local spec high]
theorem indexValue_integer (v : TValue) (sp : Span) :
    ⦃fun s _ => ⌜L.holds s⌝⦄ indexValue v sp
    ⦃⇓? _ s _ => ⌜L.holds s ∧ ∃ k, v.ty = .scalar k ∧ k.isInteger = true⌝⦄ := by
  mvcgen [indexValue, Gen.fail, -indexValue_keeps]
  all_goals simp_all

@[local spec high]
theorem scalarElement_element (ty : Ty) (sp : Span) :
    ⦃fun s _ => ⌜L.holds s⌝⦄ scalarElement ty sp ⦃⇓? e s _ => ⌜L.holds s ∧ ty.element = some e⌝⦄ := by
  mvcgen [scalarElement, Gen.fail, -scalarElement_keeps]

end Checks

section Scope

variable {sc : Scope Nat}

theorem nameValue_typed (n : String) (sp : Span) :
    ⦃fun s _ => ⌜(scopeIs sc).holds s⌝⦄ nameValue n sp
    ⦃⇓? v s _ => ⌜(scopeIs sc).holds s ∧ HasType sc.globals sc.types (.name n sp) v.ty⌝⦄ := by
  mvcgen [nameValue, Gen.fail, Gen.lift, -nameValue_keeps]
  · rename_i s _ hs _ hr b hb
    subst hb
    refine ⟨hs, .local ?_⟩
    rw [← show s.scope = sc from hs]
    exact Scope.types_of_local (Scope.resolve_eq_bound_iff.1 hr)
  · rename_i s _ hs _ hr c hc
    subst hc
    refine ⟨hs, ?_⟩
    rw [← show s.scope = sc from hs]
    obtain ⟨hl, hg⟩ := Scope.resolve_eq_global_iff.1 hr
    exact .constant (Scope.types_of_not_local hl) hg

/-! Blocks and calls are no straight-line steps, but they leave the scope alone too. -/

theorem emit_scope (i : Inst) : Keeps (scopeIs sc).holds (emit i) := by
  mvcgen [emit]

theorem appendBlock_scope (l : String) : Keeps (scopeIs sc).holds (appendBlock l) := by
  mvcgen [appendBlock, Gen.record]

theorem positionAt_scope (b : Nat) : Keeps (scopeIs sc).holds (positionAt b) := by
  mvcgen [positionAt]

theorem declareCallee_scope (f : FunctionRef) (sp : Span) :
    Keeps (scopeIs sc).holds (declareCallee f sp) := by
  mvcgen [declareCallee, Gen.fail]

theorem currentBlock_scope : Keeps (scopeIs sc).holds currentBlock := by
  mvcgen [currentBlock]

theorem record_scope (f : SessionStats → SessionStats) : Keeps (scopeIs sc).holds (Gen.record f) := by
  mvcgen [Gen.record]

theorem modify_scope (g : GenState → GenState) (hg : ∀ st, (g st).scope = st.scope) :
    Keeps (scopeIs sc).holds (modify g : Gen PUnit) := by
  mvcgen
  rename_i s _ hs _
  exact (hg s).trans hs

theorem emitValue_scope (mk : Nat → Inst) : Keeps (scopeIs sc).holds (emitValue mk) := by
  mvcgen [emitValue, fresh, emit, -emitValue_keeps, -fresh_keeps, -emit_keeps]

end Scope

/-! ## Successful runs -/

/-- Every successful run of `x` from `s` ends in `post`. -/
def Gen.Yields {α : Type} (x : Gen α) (s : GenState) (post : α → GenState → Prop) : Prop :=
  ∀ t a s' t', ((x.run s).run.run t) = (.ok (a, s'), t') → post a s'

namespace Gen.Yields

variable {α β : Type} {s : GenState} {P : α → GenState → Prop} {Q : β → GenState → Prop}

theorem of_triple {P₀ : GenState → Prop} {x : Gen α}
    (h : ⦃fun s _ => ⌜P₀ s⌝⦄ x ⦃⇓? a s _ => ⌜P a s⌝⦄) (hs : P₀ s) : Yields x s P :=
  fun t a s' t' hrun => (triple_iff_run x P₀ P).1 h s t a s' t' hs hrun

theorem pure {a : α} (h : P a s) : Yields (Pure.pure a) s P := by
  intro t a' s' t' hrun
  cases hrun
  exact h

theorem bind {x : Gen α} {f : α → Gen β} (hx : Yields x s P)
    (hf : ∀ a s', P a s' → Yields (f a) s' Q) : Yields (x >>= f) s Q := by
  intro t b s'' t'' hrun
  rcases hx₁ : (x.run s).run.run t with ⟨r₁, t₁⟩
  simp only [StateT.run_bind, ExceptT.run_bind, hx₁] at hrun
  cases r₁ with
  | error e => cases hrun
  | ok p => exact hf p.1 p.2 (hx t p.1 p.2 t₁ hx₁) t₁ b s'' t'' hrun

theorem mono {P' : α → GenState → Prop} {x : Gen α} (hx : Yields x s P)
    (h : ∀ a s', P a s' → P' a s') : Yields x s P' :=
  fun t a s' t' hrun => h a s' (hx t a s' t' hrun)

theorem throw {e : CompileError} : Yields (MonadExcept.throw e : Gen α) s P := by
  intro t a s' t' hrun
  cases hrun

theorem fail {k : ErrorKind} {msg : String} {sp : Span} : Yields (Gen.fail k msg sp : Gen α) s P :=
  throw

theorem mapError {f : CompileError → CompileError} {x : Gen α} (hx : Yields x s P) :
    Yields (Gen.mapError f x) s P := by
  intro t a s' t' hrun
  rcases hx₁ : (x.run s).run.run t with ⟨r₁, t₁⟩
  simp only [Gen.mapError, tryCatch, tryCatchThe, MonadExceptOf.tryCatch, ExceptT.tryCatch,
    StateT.run, ExceptT.run, ExceptT.mk] at hx₁ hrun
  simp only [Bind.bind, StateT.bind, hx₁] at hrun
  cases r₁ with
  | error e => cases hrun
  | ok p => cases hrun; exact hx t _ _ _ hx₁

theorem bind_get {f : GenState → Gen β} (h : Yields (f s) s Q) :
    Yields (MonadState.get >>= f) s Q :=
  bind (P := fun a s' => a = s ∧ s' = s) (fun _ _ _ _ hrun => by cases hrun; exact ⟨rfl, rfl⟩)
    fun _ _ hp => by obtain ⟨rfl, rfl⟩ := hp; exact h

theorem bind_lift {x : Except CompileError α} {f : α → Gen β}
    (h : ∀ a, x = .ok a → Yields (f a) s Q) : Yields (Gen.lift x >>= f) s Q := by
  cases x with
  | error e => exact bind (P := fun _ _ => False) throw fun _ _ h => h.elim
  | ok a =>
    refine bind (P := fun a' s' => a' = a ∧ s' = s)
      (fun _ _ _ _ hrun => by cases hrun; exact ⟨rfl, rfl⟩) fun _ _ hp => ?_
    obtain ⟨rfl, rfl⟩ := hp
    exact h _ rfl

theorem fail_bind {k : ErrorKind} {msg : String} {sp : Span} {f : α → Gen β} :
    Yields (Gen.fail k msg sp >>= f) s Q :=
  bind (P := fun _ _ => False) fail fun _ _ h => h.elim

/-- A step that keeps the scope `sc`, followed by the rest. -/
theorem bind_keeps {sc : Scope Nat} {x : Gen α} {f : α → Gen β} (hs : s.scope = sc)
    (hx : Keeps (scopeIs sc).holds x) (hf : ∀ a s', s'.scope = sc → Yields (f a) s' Q) :
    Yields (x >>= f) s Q :=
  (of_triple hx hs).bind hf

end Gen.Yields

/-! ## The expression generators -/

/-- The typing of a successful run from `s`: the scope is kept and `Q` holds of the result under
the scope's globals and local types. -/
def Typed {α : Type} (s : GenState) (Q : Globals → (String → Option Ty) → α → Prop) (a : α)
    (s' : GenState) : Prop :=
  s'.scope = s.scope ∧ Q s.scope.globals s.scope.types a

/-- What every expression generator at nesting budget `fuel` guarantees of its successful runs. -/
structure ExprTyped (fuel : Nat) : Prop where
  expr : ∀ e s, Gen.Yields (genExpr fuel e) s (Typed s fun G Γ v => HasType G Γ e v.ty)
  call : ∀ func args kws sp s, Gen.Yields (genCall fuel func args kws sp) s
    (Typed s fun G Γ v => HasType G Γ (.call func args kws sp) v.ty)
  args : ∀ as ps s, as.length = ps.length → Gen.Yields (genArgs fuel as ps) s
    (Typed s fun G Γ _ => ArgsHaveTypes G Γ as ps)
  index : ∀ v i sp s, Gen.Yields (genIndex fuel v i sp) s
    (Typed s fun G Γ w => HasType G Γ (.index v i sp) w.ty)
  slice : ∀ v lo hi sp s, Gen.Yields (genSlice fuel v lo hi sp) s
    (Typed s fun G Γ w => HasType G Γ (.slice v lo hi sp) w.ty)

/-- With no budget left every expression generator fails at once. -/
theorem exprTyped_zero : ExprTyped 0 := by
  refine ⟨fun e s => ?_, fun func args kws sp s => ?_, fun as ps s _ => ?_, fun v i sp s => ?_,
    fun v lo hi sp s => ?_⟩ <;>
    simp only [genExpr, genCall, genArgs, genIndex, genSlice] <;> exact Gen.Yields.fail

variable {fuel : Nat}

theorem genExpr_typed (ih : ExprTyped fuel) (e : Expr) (s : GenState) :
    Gen.Yields (genExpr (fuel + 1) e) s (Typed s fun G Γ v => HasType G Γ e v.ty) := by
  simp only [genExpr]
  refine Gen.Yields.mapError ?_
  cases e with
  | const lit span =>
    refine (Gen.Yields.of_triple (constantValue_typed (L := scopeIs s.scope) lit span) rfl).mono
      fun v s' h => ?_
    obtain ⟨hs, k, hk, hv⟩ := h
    refine ⟨hs, ?_⟩
    show HasType _ _ _ v.ty
    rw [hv]
    exact .const hk
  | name n span => exact Gen.Yields.of_triple (nameValue_typed n span) rfl
  | binary op l r span =>
    refine (ih.expr l s).bind fun lv s₁ h₁ => ?_
    obtain ⟨hs₁, hl⟩ := h₁
    refine (ih.expr r s₁).bind fun rv s₂ h₂ => ?_
    obtain ⟨hs₂, hr⟩ := h₂
    rw [hs₁] at hs₂ hr
    refine (Gen.Yields.of_triple (binaryValue_typed (L := scopeIs s.scope) op lv rv span) hs₂).mono
      fun v s₃ h₃ => ?_
    obtain ⟨hs₃, k, hc, hk, ha⟩ := h₃
    exact ⟨hs₃, .binary hl hr hc hk ha⟩
  | compare op l r span =>
    refine (ih.expr l s).bind fun lv s₁ h₁ => ?_
    obtain ⟨hs₁, hl⟩ := h₁
    refine (ih.expr r s₁).bind fun rv s₂ h₂ => ?_
    obtain ⟨hs₂, hr⟩ := h₂
    rw [hs₁] at hs₂ hr
    refine (Gen.Yields.of_triple (commonType_coerce (L := scopeIs s.scope) lv.ty rv.ty op.symbol span)
      hs₂).bind fun ty s₃ h₃ => ?_
    obtain ⟨hs₃, hc⟩ := h₃
    split
    · rename_i kind
      refine (Gen.Yields.of_triple (castValue_castable (L := scopeIs s.scope) lv _ span) hs₃).bind
        fun a s₄ h₄ => ?_
      refine (Gen.Yields.of_triple (castValue_castable (L := scopeIs s.scope) rv _ span) h₄.1).bind
        fun b s₅ h₅ => ?_
      refine (Gen.Yields.of_triple (kindCompare_applies (L := scopeIs s.scope) kind op a b span)
        h₅.1).bind fun flag s₆ h₆ => Gen.Yields.pure ⟨h₆.1, .compare hl hr hc h₆.2⟩
    · exact Gen.Yields.fail
  | unary op x span =>
    refine (ih.expr x s).bind fun v s₁ h₁ => ?_
    obtain ⟨hs₁, hx⟩ := h₁
    split
    · -- `not` asks only for a truth value
      rename_i hop
      subst hop
      refine (Gen.Yields.of_triple (toBool_castable (L := scopeIs s.scope) v x.span) hs₁).bind
        fun _ s₂ h₂ => ?_
      refine Gen.Yields.bind_keeps h₂.1 (invert_keeps _ _) fun _ s₃ hs₃ => ?_
      exact Gen.Yields.pure ⟨hs₃, .not hx h₂.2⟩
    · refine (Gen.Yields.of_triple (operandKindOf_kind (L := scopeIs s.scope) v.ty op.symbol span)
        hs₁).bind fun k s₂ h₂ => ?_
      refine Gen.Yields.bind_keeps h₂.1 (materialize_keeps v) fun raw s₃ hs₃ => ?_
      refine (Gen.Yields.of_triple (kindUnary_applies (L := scopeIs s.scope) k v.ty op raw span)
        hs₃).bind fun _ s₄ h₄ => ?_
      exact Gen.Yields.pure ⟨h₄.1, .unary hx h₂.2 h₄.2⟩
  | logic op l r span =>
    refine (ih.expr l s).bind fun lv s₁ h₁ => ?_
    obtain ⟨hs₁, hl⟩ := h₁
    refine (Gen.Yields.of_triple (toBool_castable (L := scopeIs s.scope) lv l.span) hs₁).bind
      fun _ s₂ h₂ => ?_
    obtain ⟨hs₂, hcl⟩ := h₂
    refine Gen.Yields.bind_keeps hs₂ currentBlock_scope fun _ s₃ hs₃ => ?_
    refine Gen.Yields.bind_keeps hs₃ (appendBlock_scope _) fun _ s₄ hs₄ => ?_
    refine Gen.Yields.bind_keeps hs₄ (appendBlock_scope _) fun _ s₅ hs₅ => ?_
    -- `and` and `or` differ only in the order of the branch targets
    split
    all_goals
      refine Gen.Yields.bind_keeps hs₅ (emit_scope _) fun _ s₆ hs₆ => ?_
      refine Gen.Yields.bind_keeps hs₆ (positionAt_scope _) fun _ s₇ hs₇ => ?_
      refine (ih.expr r s₇).bind fun rv s₈ h₈ => ?_
      obtain ⟨hs₈, hr⟩ := h₈
      rw [hs₇] at hs₈ hr
      refine (Gen.Yields.of_triple (toBool_castable (L := scopeIs s.scope) rv r.span) hs₈).bind
        fun _ s₉ h₉ => ?_
      obtain ⟨hs₉, hcr⟩ := h₉
      refine Gen.Yields.bind_keeps hs₉ currentBlock_scope fun _ s₁₀ hs₁₀ => ?_
      refine Gen.Yields.bind_keeps hs₁₀ (emit_scope _) fun _ s₁₁ hs₁₁ => ?_
      refine Gen.Yields.bind_keeps hs₁₁ (positionAt_scope _) fun _ s₁₂ hs₁₂ => ?_
      refine Gen.Yields.bind_keeps hs₁₂ (emitValue_scope _) fun _ s₁₃ hs₁₃ => ?_
      exact Gen.Yields.pure ⟨hs₁₃, .logic hl hcl hr hcr⟩
  | call func args kws span => exact ih.call func args kws span s
  | index v i span => exact ih.index v i span s
  | slice v lo hi span => exact ih.slice v lo hi span s
  | unsupported c span => exact Gen.Yields.fail

theorem genCall_typed (ih : ExprTyped fuel) (func : Expr) (args : List Expr) (kws : List Keyword)
    (span : Span) (s : GenState) :
    Gen.Yields (genCall (fuel + 1) func args kws span) s
      (Typed s fun G Γ v => HasType G Γ (.call func args kws span) v.ty) := by
  simp only [genCall]
  split
  · rename_i n hn
    refine Gen.Yields.bind_get (Gen.Yields.bind_lift fun r hr => ?_)
    split
    · exact Gen.Yields.fail_bind
    · rename_i sym
      simp only [pure_bind]
      split
      · -- a function
        rename_i f
        obtain ⟨hl, hg⟩ := Scope.resolve_eq_global_iff.1 hr
        split
        · exact Gen.Yields.fail_bind
        · rename_i hkw
          split
          · exact Gen.Yields.fail_bind
          · rename_i hlen
            refine (ih.args args f.sig.params s (not_not.1 hlen)).bind fun values s₁ h₁ => ?_
            obtain ⟨hs₁, hargs⟩ := h₁
            have hcall : HasType s.scope.globals s.scope.types (.call func args kws span) f.sig.ret := by
              rw [List.head?_eq_none_iff.1 (Option.eq_none_iff_forall_ne_some.2 hkw)]
              exact .call hn (Scope.types_of_not_local hl) hg hargs
            refine Gen.Yields.bind_keeps hs₁ (declareCallee_scope f span) fun _ s₂ hs₂ => ?_
            split
            · -- no result register for a `Void` function
              rename_i hret
              have hvoid : HasType s.scope.globals s.scope.types (.call func args kws span) .void :=
                Ty.isVoid_iff.1 hret ▸ hcall
              refine Gen.Yields.bind_keeps hs₂ (emit_scope _) fun _ s₃ hs₃ => ?_
              refine Gen.Yields.bind_keeps hs₃ (record_scope _) fun _ s₄ hs₄ => ?_
              split
              · refine Gen.Yields.bind_keeps hs₄ (modify_scope _ fun _ => rfl) fun _ s₅ hs₅ => ?_
                exact Gen.Yields.pure ⟨hs₅, hvoid⟩
              · exact Gen.Yields.pure ⟨hs₄, hvoid⟩
            · rw [bind_map_left]
              refine Gen.Yields.bind_keeps hs₂ fresh_keeps fun _ s₃ hs₃ => ?_
              refine Gen.Yields.bind_keeps hs₃ (emit_scope _) fun _ s₄ hs₄ => ?_
              refine Gen.Yields.bind_keeps hs₄ (record_scope _) fun _ s₅ hs₅ => ?_
              split
              · refine Gen.Yields.bind_keeps hs₅ (modify_scope _ fun _ => rfl) fun _ s₆ hs₆ => ?_
                exact Gen.Yields.pure ⟨hs₆, hcall⟩
              · exact Gen.Yields.pure ⟨hs₅, hcall⟩
      · exact Gen.Yields.fail
      · -- a cast
        rename_i ty hvoid
        obtain ⟨hl, hg⟩ := Scope.resolve_eq_global_iff.1 hr
        split
        · rename_i arg
          split
          · exact Gen.Yields.fail_bind
          · rename_i hkw
            refine (ih.expr arg s).bind fun v s₁ h₁ => ?_
            obtain ⟨hs₁, ha⟩ := h₁
            refine (Gen.Yields.of_triple (castValue_castable (L := scopeIs s.scope) v ty span)
              hs₁).bind fun _ s₂ h₂ => Gen.Yields.pure ⟨h₂.1, ?_⟩
            rw [List.head?_eq_none_iff.1 (Option.eq_none_iff_forall_ne_some.2 hkw)]
            exact .cast hn (Scope.types_of_not_local hl) hg hvoid ha h₂.2
        · exact Gen.Yields.fail
      all_goals exact Gen.Yields.fail
  · exact Gen.Yields.fail

theorem genArgs_typed (ih : ExprTyped fuel) (as : List Expr) (ps : List Ty) (s : GenState)
    (hlen : as.length = ps.length) :
    Gen.Yields (genArgs (fuel + 1) as ps) s (Typed s fun G Γ _ => ArgsHaveTypes G Γ as ps) := by
  match as, ps, hlen with
  | [], [], _ => exact Gen.Yields.pure ⟨rfl, .nil⟩
  | a :: as, p :: ps, hlen =>
    simp only [genArgs]
    refine (ih.expr a s).bind fun v s₁ h₁ => ?_
    obtain ⟨hs₁, ha⟩ := h₁
    refine (Gen.Yields.of_triple (castValue_castable (L := scopeIs s.scope) v p a.span) hs₁).bind
      fun _ s₂ h₂ => ?_
    refine (ih.args as ps s₂ (Nat.succ.inj hlen)).bind fun _ s₃ h₃ => ?_
    obtain ⟨hs₃, hrest⟩ := h₃
    rw [h₂.1] at hs₃ hrest
    exact Gen.Yields.pure ⟨hs₃, .cons ha h₂.2 hrest⟩

theorem genIndex_typed (ih : ExprTyped fuel) (v i : Expr) (span : Span) (s : GenState) :
    Gen.Yields (genIndex (fuel + 1) v i span) s
      (Typed s fun G Γ w => HasType G Γ (.index v i span) w.ty) := by
  simp only [genIndex]
  refine (ih.expr v s).bind fun c s₁ h₁ => ?_
  obtain ⟨hs₁, hv⟩ := h₁
  refine (ih.expr i s₁).bind fun idx s₂ h₂ => ?_
  obtain ⟨hs₂, hi⟩ := h₂
  rw [hs₁] at hs₂ hi
  refine (Gen.Yields.of_triple (indexValue_integer (L := scopeIs s.scope) idx i.span) hs₂).bind
    fun _ s₃ h₃ => ?_
  obtain ⟨hs₃, k, hk, hint⟩ := h₃
  rw [hk] at hi
  split
  · -- a lane of a vector variable, kept assignable
    rename_i e n _ _ hvec
    refine Gen.Yields.pure ⟨hs₃, ?_⟩
    simp only [TValue.ty, Slot.ty] at hvec hv ⊢
    subst hvec
    exact .lane hv hi hint
  · -- a lane of a vector value
    rename_i e n _ hvec
    rw [hvec] at hv
    refine Gen.Yields.bind_keeps hs₃ (materialize_keeps _) fun _ s₄ hs₄ => ?_
    refine Gen.Yields.bind_keeps hs₄ (extract_keeps _ _) fun _ s₅ hs₅ => ?_
    exact Gen.Yields.pure ⟨hs₅, .lane hv hi hint⟩
  · split
    · rename_i harr
      refine (Gen.Yields.of_triple (scalarElement_element (L := scopeIs s.scope) _ span) hs₃).bind
        fun e s₄ h₄ => ?_
      refine Gen.Yields.bind_keeps h₄.1 (materialize_keeps _) fun _ s₅ hs₅ => ?_
      refine Gen.Yields.bind_keeps hs₅ (elementAddress_keeps _ _) fun _ s₆ hs₆ => ?_
      exact Gen.Yields.pure ⟨hs₆, .element hv harr h₄.2 hi hint⟩
    · exact Gen.Yields.fail

theorem genSlice_typed (ih : ExprTyped fuel) (v : Expr) (lo hi : Option Expr) (span : Span)
    (s : GenState) :
    Gen.Yields (genSlice (fuel + 1) v lo hi span) s
      (Typed s fun G Γ w => HasType G Γ (.slice v lo hi span) w.ty) := by
  simp only [genSlice]
  refine (ih.expr v s).bind fun c s₁ h₁ => ?_
  obtain ⟨hs₁, hv⟩ := h₁
  split
  · exact Gen.Yields.fail_bind
  · rename_i hhi
    obtain rfl := Option.eq_none_iff_forall_ne_some.2 hhi
    split
    · exact Gen.Yields.fail_bind
    · rename_i harr
      have harr : c.ty.isArrayLike = true := by simpa using harr
      refine (Gen.Yields.of_triple (scalarElement_element (L := scopeIs s.scope) _ span) hs₁).bind
        fun e s₂ h₂ => ?_
      obtain ⟨hs₂ : s₂.scope = s.scope, he⟩ := h₂
      split
      · -- the slice starts at an index
        rename_i l
        refine (ih.expr l s₂).bind fun idx s₃ h₃ => ?_
        obtain ⟨hs₃, hl⟩ := h₃
        rw [hs₂] at hs₃ hl
        refine (Gen.Yields.of_triple (indexValue_integer (L := scopeIs s.scope) idx l.span)
          hs₃).bind fun _ s₄ h₄ => ?_
        obtain ⟨hs₄, k, hk, hint⟩ := h₄
        rw [hk] at hl
        refine Gen.Yields.bind_keeps hs₄ (materialize_keeps _) fun _ s₅ hs₅ => ?_
        refine Gen.Yields.bind_keeps hs₅ (elementAddress_keeps _ _) fun _ s₆ hs₆ => ?_
        exact Gen.Yields.pure ⟨hs₆, .sliceFrom hv harr he hl hint⟩
      · simp only [pure_bind]
        refine Gen.Yields.bind_keeps hs₂ (materialize_keeps _) fun _ s₅ hs₅ => ?_
        refine Gen.Yields.bind_keeps hs₅ (elementAddress_keeps _ _) fun _ s₆ hs₆ => ?_
        exact Gen.Yields.pure ⟨hs₆, .slice hv harr he⟩

/-- Every expression generator, at every budget, types what it generates by the rules. -/
theorem exprTyped : ∀ fuel, ExprTyped fuel
  | 0 => exprTyped_zero
  | fuel + 1 =>
    have ih := exprTyped fuel
    ⟨genExpr_typed ih, genCall_typed ih, fun as ps s hlen => genArgs_typed ih as ps s hlen,
      genIndex_typed ih, genSlice_typed ih⟩

end TypedJit.Codegen

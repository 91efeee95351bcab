import TypedJit.Proofs.Codegen.Constructs

/-!
Code for expressions is well built.
-/

namespace TypedJit.Codegen

open Machine

variable {sig : Signature} {O O₀ : Outline} {s s₀ : GenState} {N c fuel : Nat}

/-- An argument converted to a parameter of type `p`: an operand of its machine type. -/
def ArgReady (sig : Signature) (O : Outline) (s : GenState) (o : Operand) (p : Ty) : Prop :=
  ∃ m, Mty.ofTy p = some m ∧ o.Ready sig O s m

theorem ArgReady.grow {O' : Outline} {s' : GenState} (hw : WellBuilt sig O s)
    (hg : Grows O s O' s') {o : Operand} {p : Ty} (h : ArgReady sig O s o p) :
    ArgReady sig O' s' o p := by
  obtain ⟨m, hm, ho⟩ := h
  exact ⟨m, hm, ho.grow hw hg⟩

/-- The slot a ready value denotes is ready. -/
theorem TValue.Ready.asSlot {O : Outline} {s : GenState} {v : TValue} {sl : Slot}
    (h : v.Ready sig O s) (hsl : v.asSlot? = some sl) : sl.Ready sig O s := by
  cases v with
  | var ty p =>
    cases hsl
    exact h
  | slot sl' =>
    cases hsl
    exact h
  | _ => cases hsl

/-- What the expression generators build with nesting budget `fuel`. -/
structure ExprBuilds (sig : Signature) (fuel : Nat) : Prop where
  expr : ∀ O s e, WellBuilt sig O s →
    Builds sig O s (genExpr fuel e) fun O' v s' => v.Ready sig O' s'
  call : ∀ O s func args kws sp, WellBuilt sig O s →
    Builds sig O s (genCall fuel func args kws sp) fun O' v s' => v.Ready sig O' s'
  args : ∀ O s as ps, WellBuilt sig O s → Builds sig O s (genArgs fuel as ps) fun O' os s' =>
    List.Forall₂ (ArgReady sig O' s') os (ps.take as.length)
  index : ∀ O s v i sp, WellBuilt sig O s →
    Builds sig O s (genIndex fuel v i sp) fun O' v s' => v.Ready sig O' s'
  slice : ∀ O s v lo hi sp, WellBuilt sig O s →
    Builds sig O s (genSlice fuel v lo hi sp) fun O' v s' => v.Ready sig O' s'

/-- With no budget left every expression generator fails at once. -/
theorem exprBuilds_zero : ExprBuilds sig 0 :=
  ⟨fun _ _ _ _ => Builds.fail, fun _ _ _ _ _ _ _ => Builds.fail, fun _ _ _ _ _ => Builds.fail,
    fun _ _ _ _ _ _ => Builds.fail, fun _ _ _ _ _ _ _ => Builds.fail⟩

section Operators

variable (ih : ExprBuilds sig fuel)
include ih

theorem genBinary_builds (hw : WellBuilt sig O s) (op : BinOp) (l r : Expr) (sp : Span) :
    Builds sig O s (genExpr (fuel + 1) (.binary op l r sp)) fun O' v s' => v.Ready sig O' s' := by
  rw [genExpr]
  refine Builds.mapError ((ih.expr O s l hw).bind fun O₁ lv s₁ _ hw₁ hl => ?_)
  refine (ih.expr O₁ s₁ r hw₁).bind fun O₂ rv s₂ hg₂ hw₂ hr => ?_
  exact binaryValue_builds hw₂ (hl.grow hw₁ hg₂) hr op sp

/-- Comparisons are made on scalars converted to their common type. -/
theorem genCompare_builds (hw : WellBuilt sig O s) (op : CmpOp) (l r : Expr) (sp : Span) :
    Builds sig O s (genExpr (fuel + 1) (.compare op l r sp)) fun O' v s' => v.Ready sig O' s' := by
  rw [genExpr]
  refine Builds.mapError ((ih.expr O s l hw).bind fun O₁ lv s₁ _ hw₁ hl => ?_)
  refine (ih.expr O₁ s₁ r hw₁).bind fun O₂ rv s₂ hg₂ hw₂ hr => ?_
  refine (commonType_builds hw₂ _ _ _ _).bind fun O₃ ty s₃ _ _ h₃ => ?_
  obtain ⟨-, rfl, rfl⟩ := h₃
  split
  · rename_i kind
    refine (castValue_scalar_builds hw₂ (hl.grow hw₁ hg₂) kind sp).bind
      fun O₄ a s₄ hg₄ hw₄ ha => ?_
    refine (castValue_scalar_builds hw₄ (hr.grow hw₂ hg₄) kind sp).bind
      fun O₅ b s₅ hg₅ hw₅ hb => ?_
    refine (kindCompare_builds hw₅ (ha.grow hw₄ hg₅) hb op sp).bind
      fun O₆ flag s₆ _ hw₆ hflag => ?_
    exact Builds.pure hw₆ ⟨_, rfl, hflag⟩
  · exact Builds.fail

/-- `not` inverts a truth value; `+`, `-` and `~` act on the value's operand. -/
theorem genUnary_builds (hw : WellBuilt sig O s) (op : UnaryOp) (x : Expr) (sp : Span) :
    Builds sig O s (genExpr (fuel + 1) (.unary op x sp)) fun O' v s' => v.Ready sig O' s' := by
  rw [genExpr]
  refine Builds.mapError ((ih.expr O s x hw).bind fun O₁ v s₁ _ hw₁ hv => ?_)
  split
  · refine (toBool_builds hw₁ hv _).bind fun O₂ flag s₂ _ hw₂ hflag => ?_
    refine (invert_builds (t := .scalar .bool) hw₂ rfl hflag).bind fun O₃ neg s₃ _ hw₃ hneg => ?_
    exact Builds.pure hw₃ ⟨_, rfl, hneg⟩
  · refine (operandKindOf_builds hw₁ _ _ _).bind fun O₂ kind s₂ _ _ h₂ => ?_
    obtain ⟨hk, rfl, rfl⟩ := h₂
    refine (materialize_builds hw₁ hv).bind fun O₃ raw s₃ _ hw₃ h₃ => ?_
    obtain ⟨m, hm, hraw⟩ := h₃
    refine (kindUnary_builds hw₃ hm (isArith_of_operandKind hk hm) hraw op sp).bind
      fun O₄ r s₄ _ hw₄ hr => ?_
    exact Builds.pure hw₄ ⟨m, hm, hr⟩

end Operators

/-! ## Short-circuit operators -/

/-- The right operand of `and` and `or`, generated in block `right`, and the join of the two
outcomes in block `merge`, once the left operand's last block `leftEnd` has branched to both:
the tail of `genExpr` on `Expr.logic`. -/
def logicJoin (fuel : Nat) (op : BoolOp) (r : Expr) (leftEnd right merge : Nat) : Gen TValue := do
  positionAt right
  let rv ← genExpr fuel r
  let rightFlag ← toBool rv r.span
  let rightEnd ← currentBlock
  emit (.br merge)
  positionAt merge
  let shortCircuit : Operand := .const (.scalar (.bool (op == .or)))
  let v ← emitValue (.phi · [(shortCircuit, leftEnd), (rightFlag, rightEnd)])
  pure (.temp .bool v)

/-- The join: the right operand's last block branches to `merge`, whose only other predecessor is
`leftEnd`, and the phi there takes the short-circuit constant from `leftEnd` and the right
operand's flag from its last block. -/
theorem logicJoin_builds {r : Expr}
    (hexpr : ∀ O s, WellBuilt sig O s →
      Builds sig O s (genExpr fuel r) fun O' v s' => v.Ready sig O' s')
    (hN₀ : N ≤ s₀.blocks.size) (hin : Inside N c O₀ s₀ O s) (hw : WellBuilt sig O s)
    (op : BoolOp) {leftEnd right merge : Nat} (hleft : leftEnd < N) (hN : N ≤ right)
    (hrm : right < merge) (hm : merge < s.blocks.size) (hpr : O.parent right = leftEnd)
    (hpm : O.parent merge = leftEnd) (habove : Code.Above O.parent c leftEnd)
    (hempty : ∀ k, s.inst? merge k = none) (hedge : ∀ p, s.Edge p merge ↔ p = leftEnd) :
    Within sig N c O₀ s₀ s (logicJoin fuel op r leftEnd right merge)
      fun O' v s' => v.Ready sig O' s' := by
  unfold logicJoin
  have hr : right < s.blocks.size := hrm.trans hm
  have hlr : Code.Above O.parent leftEnd right := hpr ▸ Code.Above.parent_above right
  -- the right operand is a construct of its own, started in `right`
  refine (Within.enter hin hw hN hr (habove.trans hlr)).bind fun O₁ _ s₁ hin₁ hw₁ h₁ => ?_
  obtain ⟨hO₁, hs₁⟩ := h₁
  subst O₁ s₁
  refine (Within.nested hN₀ hin₁ hw₁ (hexpr _ _ hw₁)).bind fun O₂ rv s₂ hin₂ hw₂ h₂ => ?_
  obtain ⟨hg₂, hrv⟩ := h₂
  refine (Within.nested hN₀ hin₂ hw₂ (toBool_builds hw₂ hrv _)).bind
    fun O₃ flag s₃ hin₃ hw₃ h₃ => ?_
  obtain ⟨hg₃, hflag⟩ := h₃
  have hg := hg₂.trans hw₂ hg₃
  refine (Within.of_builds hN₀ hin₃ hw₃ (currentBlock_builds hw₃)).bind
    fun O₄ rightEnd s₄ _ _ h₄ => ?_
  obtain ⟨hrightEnd, hO₄, hs₄⟩ := h₄
  subst rightEnd O₄ s₄
  -- what the right operand left of `merge`: its parent, no instruction, one predecessor
  have hparent : O₃.parent merge = leftEnd := (hg.grown.parent merge hm).trans hpm
  have hcur : s₃.current = right ∨ s.blocks.size ≤ s₃.current := hg.confined.current
  have hme : merge ≠ s₃.current := by
    rcases hcur with h | h <;> omega
  have hempty₃ : ∀ k, s₃.inst? merge k = none := fun k =>
    (hg.confined.others merge hm hrm.ne' k).trans (hempty k)
  have hedge₃ : ∀ p, s₃.Edge p merge ↔ p = leftEnd := fun p =>
    (hg.confined.edge_iff hg.grown hm p).trans (hedge p)
  have hleft₃ : Code.Above O₃.parent leftEnd s₃.current :=
    (hw₁.above_extend hg.grown hr hlr).trans hg.below
  have hc₃ := hw₃.current_lt
  have hsize : merge < s₃.blocks.size := hm.trans_le hg.grown.size_le
  refine (Within.branch hin₃ hw₃ (by omega) (i := .br merge) rfl rfl (fun _ _ => trivial)
    (by simp [Inst.operands]) ?_).bind fun O₅ _ s₅ hin₅ hw₅ h₅ => ?_
  · intro b hb
    obtain rfl : b = merge := by simpa [Inst.targets] using hb
    exact ⟨by omega, hsize, hparent ▸ hleft₃, GenState.noPhi_of_empty hempty₃⟩
  obtain ⟨hO₅, hs₅⟩ := h₅
  subst O₅ s₅
  have hcm : Code.Above O₃.parent c merge := by
    have he₀ : Extends O s O { s with current := right } := Extends.same rfl rfl
    have he : Extends O s O₃ s₃ := he₀.trans hg.grown
    exact (hw.above_extend he (by omega) habove).trans (hparent ▸ Code.Above.parent_above merge)
  refine (Within.enter hin₅ hw₅ (hN.trans hrm.le) (by simpa using hsize) hcm).bind
    fun O₆ _ s₆ hin₆ hw₆ h₆ => ?_
  obtain ⟨hO₆, hs₆⟩ := h₆
  subst O₆ s₆
  refine (Within.phi hN₀ hin₆ hw₆ (t := .scalar .bool) (hN.trans hrm.le) (show 0 < merge by omega)
    ?_ ?_ ?_ ?_).bind
    fun O₇ v s₇ hin₇ hw₇ hv => ?_
  · intro k
    exact (GenState.inst?_emitted_of_ne hc₃ hme k).trans (hempty₃ k)
  · -- the right operand ends in a block other than `leftEnd`
    have hne : leftEnd ≠ s₃.current := by
      rcases hcur with h | h <;> omega
    simpa using hne
  · intro p
    change _ ↔ (s₃.emitted (.br merge)).Edge p merge
    simp [GenState.edge_emitted hc₃, hedge₃, Inst.targets]
  · intro x hx
    simp only [List.mem_cons, List.not_mem_nil, or_false] at hx
    rcases hx with rfl | rfl
    · exact ⟨.scalar _, fun _ h => by cases h⟩
    · refine ⟨hflag.1, fun r hr => (hflag.2 r hr).mono (fun _ h => h) rfl fun _ _ _ h => ?_⟩
      exact (GenState.writes_emitted hc₃).2 (.inl h)
  exact Within.pure hin₇ hw₇ ⟨_, rfl, hv⟩

/-- The left operand's last block `c` branches on the operand's flag to the empty blocks `right`
and `merge` hanging below it, in the operator's order; the join follows. -/
theorem logicBranch_builds {r : Expr}
    (hexpr : ∀ O s, WellBuilt sig O s →
      Builds sig O s (genExpr fuel r) fun O' v s' => v.Ready sig O' s')
    (hN₀ : N ≤ s₀.blocks.size) (hin : Inside N c O₀ s₀ O s) (hw : WellBuilt sig O s)
    (op : BoolOp) {flag : Operand} (hflag : flag.Ready sig O s (.scalar .bool))
    {right merge a b : Nat} (hc : s.current = c) (hcN : c < N) (hN : N ≤ right)
    (hrm : right < merge) (hm : merge < s.blocks.size) (hpr : O.parent right = c)
    (hpm : O.parent merge = c) (hempty : ∀ x, N ≤ x → ∀ k, s.inst? x k = none)
    (hedge : ∀ p, ¬ s.Edge p merge) (hab : a = right ∧ b = merge ∨ a = merge ∧ b = right) :
    Within sig N c O₀ s₀ s (emit (.condBr flag a b) >>= fun _ => logicJoin fuel op r c right merge)
      fun O' v s' => v.Ready sig O' s' := by
  have hcs := hw.current_lt
  have htargets : ∀ x, x ∈ [a, b] ↔ x = right ∨ x = merge := by
    rcases hab with ⟨rfl, rfl⟩ | ⟨rfl, rfl⟩ <;> simp [or_comm]
  refine (Within.branch hin hw (by omega) (i := .condBr flag a b) rfl rfl
    (fun Γ hΓ => hflag.hasType hw hΓ) ?_ ?_).bind fun O₁ _ s₁ hin₁ hw₁ h₁ => ?_
  · intro x hx
    have hx : Operand.reg x = flag := by simpa [Inst.operands] using hx
    exact hflag.live hx
  · intro x hx
    have hNx : N ≤ x := by rcases (htargets x).1 hx with rfl | rfl <;> omega
    refine ⟨hNx, ?_, ?_, GenState.noPhi_of_empty (hempty x hNx)⟩
    · rcases (htargets x).1 hx with rfl | rfl <;> omega
    · rcases (htargets x).1 hx with rfl | rfl
      · rw [hpr, hc]
        exact Code.Above.refl c
      · rw [hpm, hc]
        exact Code.Above.refl c
  obtain ⟨hO₁, hs₁⟩ := h₁
  subst O₁ s₁
  refine logicJoin_builds hexpr hN₀ hin₁ hw₁ op hcN hN hrm (by simpa using hm) hpr hpm
    (Code.Above.refl c) (fun k => ?_) (fun p => ?_)
  · rw [GenState.inst?_emitted_of_ne hcs (by omega) k]
    exact hempty merge (by omega) k
  · rw [GenState.edge_emitted hcs]
    simp [hedge p, Inst.targets, htargets, hc]

section Logic

variable (ih : ExprBuilds sig fuel)
include ih

/-- `and` and `or` build a diamond below the left operand's last block. -/
theorem genLogic_builds (hw : WellBuilt sig O s) (op : BoolOp) (l r : Expr) (sp : Span) :
    Builds sig O s (genExpr (fuel + 1) (.logic op l r sp)) fun O' v s' => v.Ready sig O' s' := by
  rw [genExpr]
  dsimp only
  refine Builds.mapError ((ih.expr O s l hw).bind fun O₁ lv s₁ _ hw₁ hl => ?_)
  refine (toBool_builds hw₁ hl _).bind fun O₂ flag s₂ _ hw₂ hflag => Builds.of_within ?_
  -- the construct starts in the left operand's last block
  have hin₂ : Inside s₂.blocks.size s₂.current O₂ s₂ O₂ s₂ := Grows.refl O₂ s₂
  refine (Within.of_builds le_rfl hin₂ hw₂ (currentBlock_builds hw₂)).bind
    fun O₃ leftEnd s₃ hin₃ hw₃ h₃ => ?_
  obtain ⟨hleftEnd, hO₃, hs₃⟩ := h₃
  subst leftEnd O₃ s₃
  refine (Within.nested le_rfl hin₃ hw₃ (appendBlock_builds hw₃ _)).bind
    fun O₄ right s₄ hin₄ hw₄ h₄ => ?_
  obtain ⟨hg₄, hright, hpr, hi₄, hs₄, hc₄⟩ := h₄
  subst right
  refine (Within.nested le_rfl hin₄ hw₄ (appendBlock_builds hw₄ _)).bind
    fun O₅ merge s₅ hin₅ hw₅ h₅ => ?_
  obtain ⟨hg₅, hmerge, hpm, hi₅, hs₅, hc₅⟩ := h₅
  subst merge
  have hflag₅ := (hflag.grow hw₂ hg₄).grow hw₄ hg₅
  have hpr₅ : O₅.parent s₂.blocks.size = s₂.current :=
    (hg₅.grown.parent _ (by omega)).trans hpr
  have hinst : s₅.inst? = s₂.inst? := hi₅.trans hi₄
  have hempty : ∀ x, s₂.blocks.size ≤ x → ∀ k, s₅.inst? x k = none := fun x hx k => by
    rw [hinst]
    exact GenState.inst?_of_size_le hx k
  have hedge : ∀ p, ¬ s₅.Edge p s₄.blocks.size := fun p he =>
    hw₂.not_edge (b := s₄.blocks.size) (by omega) p (by simpa [GenState.Edge, hinst] using he)
  cases op
  · exact logicBranch_builds (fun O s => ih.expr O s r) le_rfl hin₅ hw₅ .and hflag₅ (hc₅.trans hc₄)
      hw₂.current_lt le_rfl (by omega) (by omega) hpr₅ (hpm.trans hc₄) hempty hedge
      (.inl ⟨rfl, rfl⟩)
  · exact logicBranch_builds (fun O s => ih.expr O s r) le_rfl hin₅ hw₅ .or hflag₅ (hc₅.trans hc₄)
      hw₂.current_lt le_rfl (by omega) (by omega) hpr₅ (hpm.trans hc₄) hempty hedge
      (.inr ⟨rfl, rfl⟩)

end Logic

/-! ## Calls -/

/-- Arguments converted to their parameters' types are operands of the machine parameter types. -/
theorem forall₂_ready_filterMap {O : Outline} {s : GenState} {os : List Operand} {ps : List Ty}
    (h : List.Forall₂ (ArgReady sig O s) os ps) :
    List.Forall₂ (Operand.Ready sig O s) os (ps.filterMap Mty.ofTy) := by
  induction h with
  | nil => exact .nil
  | cons ha _ ih =>
    obtain ⟨m, hm, ho⟩ := ha
    rw [List.filterMap_cons_some hm]
    exact .cons ho ih

/-- A type other than `Void` has a machine type. -/
theorem exists_ofTy_of_isVoid {t : Ty} (h : t.isVoid = false) : ∃ m, Mty.ofTy t = some m := by
  cases t <;> simp_all [Ty.isVoid, Mty.ofTy]

section Calls

variable (ih : ExprBuilds sig fuel)
include ih

theorem genArgs_builds (hw : WellBuilt sig O s) (as : List Expr) (ps : List Ty) :
    Builds sig O s (genArgs (fuel + 1) as ps) fun O' os s' =>
      List.Forall₂ (ArgReady sig O' s') os (ps.take as.length) := by
  cases as with
  | nil =>
    rw [genArgs]
    exact Builds.pure hw (by simp)
  | cons a as =>
    cases ps with
    | nil =>
      rw [genArgs]
      exact Builds.pure hw (by simp)
    | cons p ps =>
      rw [genArgs]
      refine (ih.expr O s a hw).bind fun O₁ v s₁ _ hw₁ hv => ?_
      refine (castValue_builds hw₁ hv p a.span).bind fun O₂ o s₂ _ hw₂ ho => ?_
      refine (ih.args O₂ s₂ as ps hw₂).bind fun O₃ os s₃ hg₃ hw₃ hos => ?_
      exact Builds.pure hw₃ (.cons (ArgReady.grow hw₂ hg₃ ho) hos)

/-- A call converts its arguments to the callee's parameter types and writes a fresh register of
its result type, if any; a cast converts its one argument. -/
theorem genCall_builds (hw : WellBuilt sig O s) (func : Expr) (args : List Expr)
    (kws : List Keyword) (sp : Span) :
    Builds sig O s (genCall (fuel + 1) func args kws sp) fun O' v s' => v.Ready sig O' s' := by
  rw [genCall]
  dsimp only
  split
  · refine Builds.bind_get (Builds.bind_lift fun res hres => ?_)
    split
    · exact Gen.Yields.fail_bind
    rw [pure_bind]
    split
    · rename_i f
      split
      · exact Gen.Yields.fail_bind
      split
      · exact Gen.Yields.fail_bind
      rename_i hlen
      refine (ih.args O s args f.sig.params hw).bind fun O₁ values s₁ _ hw₁ hvals => ?_
      rw [not_not.1 hlen, List.take_length] at hvals
      refine (declareCallee_builds hw₁ f sp).bind fun O₂ _ s₂ hg₂ hw₂ hO₂ => ?_
      subst hO₂
      have hready := forall₂_ready_filterMap (hvals.imp fun _ _ h => h.grow hw₁ hg₂)
      have hargs : ∀ Γ : Nat → Option Mty, (∀ r < s₂.nextReg, Γ r = O₂.type r) →
          List.Forall₂ (Operand.HasType Γ) values (machineSignature f.sig).1 :=
        fun Γ hΓ => hready.imp fun _ _ h => h.hasType hw₂ hΓ
      have huses : ∀ r, .reg r ∈ values → LiveAt sig O₂ s₂ r s₂.current :=
        fun r hr => live_of_forall₂ hready hr
      split
      · -- a call without a result
        rename_i hvoid
        have hret : Mty.ofTy f.sig.ret = none := by rw [Ty.isVoid_iff.1 hvoid]; rfl
        rw [pure_bind]
        refine (emit_builds hw₂ (i := .call none f.symbol f.sig values) rfl rfl rfl
          (fun Γ hΓ => ⟨hargs Γ hΓ, by simp [machineSignature, hret]⟩) huses).bind
          fun O₃ _ s₃ _ hw₃ _ => ?_
        refine (record_builds hw₃ _).bind fun O₄ _ s₄ _ hw₄ _ => ?_
        split
        · refine (Builds.frame hw₄ (fun _ => rfl) ?_ ?_ ?_ ?_ ?_).bind fun O₅ _ s₅ _ hw₅ _ => ?_
          all_goals try rfl
          exact Builds.pure hw₅ trivial
        · exact Builds.pure hw₄ trivial
      · -- a call writing a fresh register of the result type
        rename_i hvoid
        obtain ⟨m, hm⟩ := exists_ofTy_of_isVoid (Bool.eq_false_iff.2 hvoid)
        rw [bind_map_left]
        refine (typed_fresh_builds hw₂ m).bind fun O₃ r s₃ _ hw₃ h₃ => ?_
        obtain ⟨hr, hO₃, hs₃⟩ := h₃
        subst r O₃ s₃
        have ha := hw₂.appendable_fresh (i := .call (some s₂.nextReg) f.symbol f.sig values)
          (t := m) rfl rfl (by simp [Inst.isPhi]) (by simp [Inst.incoming])
          (fun Γ hΓ hd => ⟨hargs Γ hΓ, by simp [machineSignature, hm, hd]⟩) huses
        refine (emitted_builds hw₃ ha rfl rfl).bind fun O₄ _ s₄ _ hw₄ h₄ => ?_
        obtain ⟨hO₄, hs₄⟩ := h₄
        subst O₄ s₄
        have hres := hw₃.written_ready (i := .call (some s₂.nextReg) f.symbol f.sig values) rfl
          (show (O₂.assign s₂.nextReg m).type s₂.nextReg = some m by simp [Outline.assign])
        refine (record_builds hw₄ _).bind fun O₅ _ s₅ hg₅ hw₅ h₅ => ?_
        obtain ⟨hO₅, hs₅⟩ := h₅
        subst O₅ s₅
        split
        · refine (Builds.frame hw₄ (fun _ => rfl) ?_ ?_ ?_ ?_ ?_).bind
            fun O₆ _ s₆ hg₆ hw₆ _ => ?_
          all_goals try rfl
          exact Builds.pure hw₆ ⟨m, hm, hres.grow hw₄ hg₆⟩
        · exact Builds.pure hw₄ ⟨m, hm, hres⟩
    · exact Builds.fail
    · -- a cast of the one argument
      rename_i ty _
      split
      · rename_i arg
        split
        · exact Gen.Yields.fail_bind
        refine (ih.expr O s arg hw).bind fun O₁ v s₁ _ hw₁ hv => ?_
        refine (castValue_builds hw₁ hv ty sp).bind fun O₂ raw s₂ _ hw₂ hraw => ?_
        exact Builds.pure hw₂ hraw
      · exact Builds.fail
    · exact Builds.fail
    · exact Builds.fail
    · exact Builds.fail
  · exact Builds.fail

end Calls

/-! ## Subscripts -/

/-- Arrays of every flavour travel as the address of their first element. -/
theorem ofTy_of_isArrayLike {t : Ty} {e : ScalarType} (ha : t.isArrayLike = true)
    (he : t.element = some e) : Mty.ofTy t = some (.ptr (.scalar e)) := by
  cases t <;> simp_all [Ty.isArrayLike, Ty.element, Mty.ofTy]

section Subscripts

variable (ih : ExprBuilds sig fuel)
include ih

/-- Indexing a vector variable gives a lane of its storage, indexing a vector value extracts a
lane, and indexing an array gives the address of an element. -/
theorem genIndex_builds (hw : WellBuilt sig O s) (value i : Expr) (sp : Span) :
    Builds sig O s (genIndex (fuel + 1) value i sp) fun O' v s' => v.Ready sig O' s' := by
  rw [genIndex]
  dsimp only
  refine (ih.expr O s value hw).bind fun O₁ cv s₁ _ hw₁ hc => ?_
  refine (ih.expr O₁ s₁ i hw₁).bind fun O₂ iv s₂ hg₂ hw₂ hi => ?_
  refine (indexValue_builds hw₂ hi i.span).bind fun O₃ pos s₃ hg₃ hw₃ hpos => ?_
  have hc₃ := (hc.grow hw₁ hg₂).grow hw₂ hg₃
  split
  · -- a lane of a vector variable's storage
    rename_i e n ty ptr hty
    change ty = .vector e n at hty
    subst hty
    obtain ⟨m, hm, hp⟩ := hc₃
    cases hm
    exact Builds.pure hw₃ ⟨e, n, rfl, hp, hpos⟩
  · -- a lane of a vector value
    rename_i e n _ hty
    refine (materialize_builds hw₃ hc₃).bind fun O₄ v s₄ hg₄ hw₄ h₄ => ?_
    obtain ⟨m, hm, hv⟩ := h₄
    rw [hty] at hm
    cases hm
    refine (extract_builds hw₄ hv (hpos.grow hw₃ hg₄)).bind fun O₅ lane s₅ _ hw₅ hlane => ?_
    exact Builds.pure hw₅ ⟨_, rfl, hlane⟩
  · -- the address of an array element
    split
    · rename_i harr
      refine (scalarElement_builds hw₃ _ sp).bind fun O₄ e s₄ _ _ h₄ => ?_
      obtain ⟨he, hO₄, hs₄⟩ := h₄
      subst O₄ s₄
      refine (materialize_builds hw₃ hc₃).bind fun O₅ base s₅ hg₅ hw₅ h₅ => ?_
      obtain ⟨m, hm, hbase⟩ := h₅
      rw [ofTy_of_isArrayLike harr he] at hm
      cases hm
      refine (elementAddress_builds hw₅ hbase (hpos.grow hw₃ hg₅)).bind
        fun O₆ p s₆ _ hw₆ hp => ?_
      exact Builds.pure hw₆ ⟨_, rfl, hp⟩
    · exact Builds.fail

/-- A slice is the address of its first element. -/
theorem genSlice_builds (hw : WellBuilt sig O s) (value : Expr) (lo hi : Option Expr)
    (sp : Span) :
    Builds sig O s (genSlice (fuel + 1) value lo hi sp) fun O' v s' => v.Ready sig O' s' := by
  rw [genSlice]
  dsimp only
  refine (ih.expr O s value hw).bind fun O₁ cv s₁ _ hw₁ hc => ?_
  split
  · exact Gen.Yields.fail_bind
  split
  · exact Gen.Yields.fail_bind
  rename_i harr
  refine (scalarElement_builds hw₁ _ sp).bind fun O₂ e s₂ _ _ h₂ => ?_
  obtain ⟨he, hO₂, hs₂⟩ := h₂
  subst O₂ s₂
  -- the offset, from the lower bound if there is one, is added to the first element's address
  have hrest : ∀ O' s' (offset : Operand), Grows O₁ s₁ O' s' → WellBuilt sig O' s' →
      offset.Ready sig O' s' (.scalar .int64) →
      Builds sig O' s' (do
        let base ← materialize cv
        let p ← elementAddress base offset
        pure (TValue.temp (.slice e) p)) fun O' v s' => v.Ready sig O' s' := by
    intro O' s' offset hg hw' hoff
    refine (materialize_builds hw' (hc.grow hw₁ hg)).bind fun O₄ base s₄ hg₄ hw₄ h₄ => ?_
    obtain ⟨m, hm, hbase⟩ := h₄
    rw [ofTy_of_isArrayLike (by simpa using harr) he] at hm
    cases hm
    refine (elementAddress_builds hw₄ hbase (hoff.grow hw' hg₄)).bind fun O₅ p s₅ _ hw₅ hp => ?_
    exact Builds.pure hw₅ ⟨_, rfl, hp⟩
  split
  · rename_i l
    refine (ih.expr O₁ s₁ l hw₁).bind fun O₂ iv s₂ hg₂ hw₂ hiv => ?_
    refine (indexValue_builds hw₂ hiv l.span).bind fun O₃ off s₃ hg₃ hw₃ hoff => ?_
    exact hrest O₃ s₃ off (hg₂.trans hw₂ hg₃) hw₃ hoff
  · rw [pure_bind]
    exact hrest O₁ s₁ _ (Grows.refl _ _) hw₁ (.const (.scalar _))

end Subscripts

/-! ## Every budget -/

theorem genExpr_builds (ih : ExprBuilds sig fuel) (hw : WellBuilt sig O s) (e : Expr) :
    Builds sig O s (genExpr (fuel + 1) e) fun O' v s' => v.Ready sig O' s' := by
  cases e with
  | const lit sp =>
    rw [genExpr]
    exact Builds.mapError (constantValue_builds hw lit sp)
  | name n sp =>
    rw [genExpr]
    exact Builds.mapError (nameValue_builds hw n sp)
  | binary op l r sp => exact genBinary_builds ih hw op l r sp
  | unary op x sp => exact genUnary_builds ih hw op x sp
  | compare op l r sp => exact genCompare_builds ih hw op l r sp
  | logic op l r sp => exact genLogic_builds ih hw op l r sp
  | call func args kws sp =>
    rw [genExpr]
    exact Builds.mapError (ih.call O s func args kws sp hw)
  | index v i sp =>
    rw [genExpr]
    exact Builds.mapError (ih.index O s v i sp hw)
  | slice v lo hi sp =>
    rw [genExpr]
    exact Builds.mapError (ih.slice O s v lo hi sp hw)
  | unsupported c sp =>
    rw [genExpr]
    exact Builds.mapError Builds.fail

/-- Every expression generator, with every budget, builds well from every well-built state. -/
theorem exprBuilds (sig : Signature) (fuel : Nat) : ExprBuilds sig fuel := by
  induction fuel with
  | zero => exact exprBuilds_zero
  | succ fuel ih =>
    exact ⟨fun O s e hw => genExpr_builds ih hw e,
      fun O s func args kws sp hw => genCall_builds ih hw func args kws sp,
      fun O s as ps hw => genArgs_builds ih hw as ps,
      fun O s v i sp hw => genIndex_builds ih hw v i sp,
      fun O s v lo hi sp hw => genSlice_builds ih hw v lo hi sp⟩

/-- An assignment target is a ready slot: a local's storage or an element or lane reached by
indexing. -/
theorem genTarget_builds (hw : WellBuilt sig O s) (fuel : Nat) (target : Expr) :
    Builds sig O s (genTarget fuel target) fun O' sl s' => sl.Ready sig O' s' := by
  unfold genTarget
  split
  · refine Builds.bind_get (Builds.bind_lift fun res hres => ?_)
    split
    · exact Builds.pure hw (hw.bound_ready hres)
    · exact Builds.fail
  · exact Builds.fail
  · refine ((exprBuilds sig fuel).index O s _ _ _ hw).bind fun O₁ v s₁ _ hw₁ hv => ?_
    split
    · rename_i sl hsl
      exact Builds.pure hw₁ (TValue.Ready.asSlot hv hsl)
    · exact Builds.fail
  · exact Builds.fail

end TypedJit.Codegen

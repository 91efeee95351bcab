import TypedJit.Proofs.Codegen.Expressions
import TypedJit.Proofs.Codegen.Returns

/-!
Code for statements is well built.
-/

namespace TypedJit.Codegen

open Machine

variable {sig : Signature} {O O₀ O' : Outline} {s s₀ s' : GenState} {N c b fuel : Nat}

/-! ## Loops, discarded values and declarations -/

theorem GenState.noPhi_of_inst? (h : ∀ k, s'.inst? b k = s.inst? b k) (hp : s.NoPhi b) :
    s'.NoPhi b :=
  fun k i hi => hp k i (by rwa [← h k])

/-- A loop builds when each of its passes does. -/
theorem Builds.forIn {γ β : Type} {l : List γ} {x : β} {f : γ → β → Gen (ForInStep β)}
    (hf : ∀ y ∈ l, ∀ x O s, WellBuilt sig O s → Builds sig O s (f y x) fun _ _ _ => True)
    (hw : WellBuilt sig O s) : Builds sig O s (ForIn.forIn l x f) fun _ _ _ => True := by
  induction l generalizing x O s with
  | nil => exact Builds.pure hw trivial
  | cons y l ih =>
    rw [List.forIn_cons]
    refine (hf y List.mem_cons_self x O s hw).bind fun O₁ step s₁ _ hw₁ _ => ?_
    cases step with
    | done x' => exact Builds.pure hw₁ trivial
    | yield x' => exact ih (fun z hz => hf z (List.mem_cons_of_mem _ hz)) hw₁

theorem Builds.discard {α : Type} {x : Gen α} {P : Outline → α → GenState → Prop}
    (hx : Builds sig O s x P) : Builds sig O s (discard x) fun _ _ _ => True := by
  rw [discard_eq]
  exact hx.bind fun _ _ _ _ hw₁ _ => Builds.pure hw₁ trivial

/-- The bounds of a loop are read off its syntax; the state is left alone. -/
theorem loopBounds_builds (hw : WellBuilt sig O s) (iter : Expr) :
    Builds sig O s (loopBounds iter) fun O' _ s' => O' = O ∧ s' = s := by
  unfold loopBounds
  dsimp only
  split
  · refine Builds.bind_get ?_
    split
    · split
      · exact Gen.Yields.fail_bind
      · split
        · exact Builds.pure hw ⟨rfl, rfl⟩
        · exact Builds.pure hw ⟨rfl, rfl⟩
        · exact Builds.fail
        · exact Builds.fail
    · exact Builds.fail
  · exact Builds.fail

/-- `var(...)` gives each of its names a zeroed stack slot of its storage type. -/
theorem genVar_builds (hw : WellBuilt sig O s) (args : List Expr) (kws : List Keyword)
    (sp : Span) : Builds sig O s (genVar args kws sp) fun _ _ _ => True := by
  unfold genVar
  dsimp only
  split
  · exact Gen.Yields.fail_bind
  · split
    · exact Gen.Yields.fail_bind
    · refine (Builds.forIn (fun kw _ _ O s hw => ?_) hw).bind fun O₁ _ s₁ _ hw₁ _ =>
        Builds.pure hw₁ trivial
      refine Builds.bind_get (Builds.bind_lift fun ty _ => ?_)
      split
      · exact Gen.Yields.fail_bind
      · refine Builds.bind_lift fun _ _ => ?_
        refine (allocaFor_builds hw ty kw.name kw.span).bind fun O₁ ptr s₁ _ hw₁ h₁ => ?_
        refine (declareName_builds hw₁ kw.name ty ptr kw.span h₁).bind
          fun O₂ _ s₂ _ hw₂ _ => ?_
        exact Builds.pure hw₂ trivial

/-! ## Straight-line statements -/

/-- An assignment stores the value, converted to the target's type, through the target's slot. A
new local gets a slot of its own first, bound to its name once the value is stored. -/
theorem genAssign_builds (hw : WellBuilt sig O s) (fuel : Nat) (target value : Expr) :
    Builds sig O s (genAssign sig.ret fuel target value) fun _ _ _ => True := by
  unfold genAssign
  cases fuel with
  | zero => exact Builds.fail
  | succ fuel =>
    refine Builds.bind_get ?_
    extract_lets existing
    have hexisting : Builds sig O s (existing ()) fun _ _ _ => True := by
      simp only [existing]
      refine ((exprBuilds sig fuel).expr O s value hw).bind fun O₁ rhs s₁ _ hw₁ hrhs => ?_
      refine (genTarget_builds hw₁ fuel target).bind fun O₂ sl s₂ hg₂ hw₂ hsl => ?_
      split
      · exact Gen.Yields.fail_bind
      · refine (castValue_builds hw₂ (hrhs.grow hw₁ hg₂) sl.ty _).bind
          fun O₃ v s₃ hg₃ hw₃ h₃ => ?_
        obtain ⟨m, hm, hv⟩ := h₃
        exact slotStore_builds hw₃ (hsl.grow hw₂ hg₃) hm hv
    split
    · split
      · -- a new local, typed by its value
        rename_i n _ _
        refine ((exprBuilds sig fuel).expr O s value hw).bind fun O₁ rhs s₁ _ hw₁ hrhs => ?_
        extract_lets newLocal
        have hnew : ∀ ty, (∀ e k, ty ≠ .array e k) →
            Builds sig O₁ s₁ (newLocal ty) fun _ _ _ => True := by
          intro ty hty
          simp only [newLocal]
          refine (allocaFor_builds hw₁ ty n target.span).bind fun O₂ ptr s₂ hg₂ hw₂ h₂ => ?_
          obtain ⟨m, hm, hslot⟩ := h₂
          refine (castValue_builds hw₂ (hrhs.grow hw₁ hg₂) ty _).bind
            fun O₃ v s₃ hg₃ hw₃ h₃ => ?_
          -- the slot's storage type is the value's machine type
          obtain ⟨m', hm', hv⟩ := h₃
          obtain rfl : m = m' := Option.some.inj ((storage_eq_ofTy hty ▸ hm).symm.trans hm')
          have hslot₃ := hg₃.grown.slots _ hslot
          refine (store_builds hw₃ hv (hw₃.slot_ready hslot₃)).bind fun O₄ _ s₄ hg₄ hw₄ _ => ?_
          refine (declareLocal_builds hw₄ n ty ptr target.span
            ⟨m, hm, hg₄.grown.slots _ hslot₃⟩).bind fun O₅ _ s₅ _ hw₅ _ => ?_
          exact Builds.pure hw₅ trivial
        split
        · exact Gen.Yields.fail_bind
        · rw [pure_bind]
          exact hnew _ fun _ _ h => by cases h
        · rename_i harr
          rw [pure_bind]
          exact hnew _ harr
      · exact hexisting
    · exact hexisting

/-- A `return` ends the block with a `ret` of the function's result type. -/
theorem genReturn_builds (hw : WellBuilt sig O s) (fuel : Nat) (v : Option Expr) (sp : Span) :
    Builds sig O s (genReturn sig.ret fuel v sp) fun _ _ _ => True := by
  unfold genReturn
  cases fuel with
  | zero => exact Builds.fail
  | succ fuel =>
    dsimp only
    split
    · rename_i hvoid
      refine (emit_builds hw (i := .ret none) rfl rfl rfl (fun _ _ => ?_) (by simp [Inst.operands])).mono
        fun _ _ _ _ => trivial
      simp [Inst.WellTyped, hvoid, Mty.ofTy]
    · exact Builds.fail
    · exact Builds.fail
    · refine ((exprBuilds sig fuel).expr O s _ hw).bind fun O₁ r s₁ _ hw₁ hr => ?_
      split
      · exact Gen.Yields.fail_bind
      · refine (castValue_builds hw₁ hr sig.ret _).bind fun O₂ v s₂ _ hw₂ h₂ => ?_
        obtain ⟨m, hm, hv⟩ := h₂
        refine (emit_builds hw₂ (i := .ret (some v)) rfl rfl rfl (fun Γ hΓ => ?_)
          fun r hr => hv.live (by simpa [Inst.operands] using hr)).mono fun _ _ _ _ => trivial
        simpa [Inst.WellTyped, hm] using hv.hasType hw₂ hΓ

/-- An augmented assignment combines the slot's value with the operand and stores the result,
converted back to the slot's type. -/
theorem genAugAssign_builds (hw : WellBuilt sig O s) (target : Expr) (op : BinOp) (value : Expr)
    (sp : Span) :
    Builds sig O s (genStmt sig.ret (fuel + 1) (.augAssign target op value sp))
      fun _ _ _ => True := by
  rw [genStmt]
  refine (genTarget_builds hw fuel target).bind fun O₁ sl s₁ _ hw₁ hsl => ?_
  refine ((exprBuilds sig fuel).expr O₁ s₁ value hw₁).bind fun O₂ rhs s₂ hg₂ hw₂ hrhs => ?_
  have hsl₂ := hsl.grow hw₁ hg₂
  refine (binaryValue_builds hw₂ (show TValue.Ready sig O₂ s₂ (.slot sl) from hsl₂) hrhs op _).bind
    fun O₃ result s₃ hg₃ hw₃ hresult => ?_
  refine (castValue_builds hw₃ hresult sl.ty _).bind fun O₄ v s₄ hg₄ hw₄ h₄ => ?_
  obtain ⟨m, hm, hv⟩ := h₄
  exact slotStore_builds hw₄ ((hsl₂.grow hw₂ hg₃).grow hw₃ hg₄) hm hv

/-- An expression statement: a string is a comment, `var(...)` declares, and anything else is
evaluated for its effects. -/
theorem genEval_builds (hw : WellBuilt sig O s) (e : Expr) (sp : Span) :
    Builds sig O s (genStmt sig.ret (fuel + 1) (.eval e sp)) fun _ _ _ => True := by
  unfold genStmt
  dsimp only
  split
  · exact Builds.pure hw trivial
  · refine Builds.bind_get ?_
    split
    · exact genVar_builds hw _ _ _
    · exact Builds.discard ((exprBuilds sig fuel).expr O s _ hw)
  · exact Builds.discard ((exprBuilds sig fuel).expr O s _ hw)

/-! ## Blocks of a construct -/

/-- Block `b` of the construct that began in block `c` when there were `N` blocks: it exists,
hangs below `c`, and holds nothing yet. -/
structure Unfilled (N c : Nat) (O : Outline) (s : GenState) (b : Nat) : Prop where
  own : N ≤ b
  lt : b < s.blocks.size
  parent : O.parent b = c
  empty : ∀ k, s.inst? b k = none

namespace Unfilled

theorem above (h : Unfilled N c O s b) : Code.Above O.parent c b :=
  h.parent ▸ Code.Above.parent_above b

theorem noPhi (h : Unfilled N c O s b) : s.NoPhi b :=
  GenState.noPhi_of_empty h.empty

/-- A block that nothing was written to stays unfilled. -/
theorem keep (h : Unfilled N c O s b) (he : Extends O s O' s')
    (hi : ∀ k, s'.inst? b k = s.inst? b k) : Unfilled N c O' s' b :=
  ⟨h.own, h.lt.trans_le he.size_le, (he.parent b h.lt).trans h.parent,
    fun k => (hi k).trans (h.empty k)⟩

theorem enter (h : Unfilled N c O s b) (x : Nat) : Unfilled N c O { s with current := x } b :=
  ⟨h.own, h.lt, h.parent, h.empty⟩

theorem emitted (h : Unfilled N c O s b) (hc : s.current < s.blocks.size) (hb : b ≠ s.current)
    (i : Inst) : Unfilled N c O (s.emitted i) b :=
  h.keep (Extends.emitted hc i) (GenState.inst?_emitted_of_ne hc hb)

/-- A construct that started elsewhere leaves the block unfilled. -/
theorem grow (h : Unfilled N c O s b) (hg : Grows O s O' s') (hb : b ≠ s.current) :
    Unfilled N c O' s' b :=
  h.keep hg.grown (hg.confined.others b h.lt hb)

end Unfilled

namespace Within

variable {α β : Type} {P Q : Outline → β → GenState → Prop}

theorem mono {x : Gen β} (hx : Within sig N c O₀ s₀ s x P)
    (h : ∀ O' a s', P O' a s' → Q O' a s') : Within sig N c O₀ s₀ s x Q :=
  Gen.Yields.mono hx fun _ _ hp => hp.imp fun _ hp => ⟨hp.1, hp.2.1, h _ _ _ hp.2.2⟩

/-- A block created while control stands in the construct's first block is unfilled, and so
are the blocks that were. -/
theorem append (hN₀ : N ≤ s₀.blocks.size) (hin : Inside N c O₀ s₀ O s)
    (hw : WellBuilt sig O s) (hc : s.current = c) (l : String) :
    Within sig N c O₀ s₀ s (appendBlock l) fun O' b s' => b = s.blocks.size ∧
      s'.current = s.current ∧ Unfilled N c O' s' b ∧
      ∀ x, Unfilled N c O s x → Unfilled N c O' s' x := by
  refine (nested hN₀ hin hw (appendBlock_builds hw l)).mono fun O' b s' h => ?_
  obtain ⟨hg, rfl, hp, hi, hsize, hcur⟩ := h
  have hN : N ≤ s.blocks.size := hN₀.trans hin.grown.size_le
  refine ⟨rfl, hcur, ⟨hN, by omega, hp.trans hc, fun k => ?_⟩, fun x hx => ?_⟩
  · rw [hi]
    exact GenState.inst?_of_size_le le_rfl k
  · exact hx.keep hg.grown fun k => by rw [hi]

/-- A branch from below the construct's first block to one of its blocks without a phi. -/
theorem br (hin : Inside N c O₀ s₀ O s) (hw : WellBuilt sig O s) (hcN : c < N)
    (hc : Code.Above O.parent c s.current) (hNb : N ≤ b) (hb : b < s.blocks.size)
    (hp : O.parent b = c) (hphi : s.NoPhi b) :
    Within sig N c O₀ s₀ s (emit (.br b)) fun O' _ s' => O' = O ∧ s' = s.emitted (.br b) := by
  refine branch hin hw (by omega) rfl rfl (fun _ _ => trivial) (by simp [Inst.operands]) ?_
  intro x hx
  obtain rfl : x = b := by simpa [Inst.targets] using hx
  exact ⟨hNb, hb, hp ▸ hc, hphi⟩

/-- A branch on a truth value from below the construct's first block to two unfilled blocks. -/
theorem condBr (hin : Inside N c O₀ s₀ O s) (hw : WellBuilt sig O s) (hcN : c < N)
    (hc : Code.Above O.parent c s.current) {flag : Operand}
    (hflag : flag.Ready sig O s (.scalar .bool)) {a b : Nat} (ha : Unfilled N c O s a)
    (hb : Unfilled N c O s b) :
    Within sig N c O₀ s₀ s (emit (.condBr flag a b)) fun O' _ s' =>
      O' = O ∧ s' = s.emitted (.condBr flag a b) := by
  refine branch hin hw (by omega) rfl rfl (fun Γ hΓ => hflag.hasType hw hΓ) ?_ ?_
  · intro r hr
    exact hflag.live (by simpa [Inst.operands] using hr)
  · intro x hx
    have hx : x = a ∨ x = b := by simpa [Inst.targets] using hx
    rcases hx with rfl | rfl
    · exact ⟨ha.own, ha.lt, ha.parent ▸ hc, ha.noPhi⟩
    · exact ⟨hb.own, hb.lt, hb.parent ▸ hc, hb.noPhi⟩

/-- Entering the construct's last block ends it. -/
theorem last (hin : Inside N c O₀ s₀ O s) (hw : WellBuilt sig O s) (hb : Unfilled N c O s b) :
    Within sig N c O₀ s₀ s (positionAt b) fun _ _ _ => True :=
  (enter hin hw hb.own hb.lt hb.above).mono fun _ _ _ _ => trivial

/-- The join block of an `if`, entered last and marked unreachable when no arm reaches it. -/
theorem join (hN₀ : N ≤ s₀.blocks.size) (hin : Inside N c O₀ s₀ O s) (hw : WellBuilt sig O s)
    (hb : Unfilled N c O s b) (u : Bool) :
    Within sig N c O₀ s₀ s (positionAt b >>= fun _ =>
      if u = true then emit .unreachable else Pure.pure ()) fun _ _ _ => True := by
  refine (enter hin hw hb.own hb.lt hb.above).bind fun O₁ _ s₁ hin₁ hw₁ h₁ => ?_
  obtain ⟨hO₁, hs₁⟩ := h₁
  subst O₁ s₁
  split
  · exact of_builds hN₀ hin₁ hw₁ ((emit_builds hw₁ (i := .unreachable) rfl rfl rfl
      (fun _ _ => trivial) (by simp [Inst.operands])).mono fun _ _ _ _ => trivial)
  · exact pure hin₁ hw₁ trivial

/-- An arm of a construct: the statements `ss`, generated in the unfilled block `bb`, branch to
the construct's block `next` when control falls off their end, and `J` follows, told whether it
did. -/
theorem arm {ss : List Stmt} {J : Bool → Gen β}
    (hblock : ∀ O s, WellBuilt sig O s →
      Builds sig O s (genBlock sig.ret fuel ss) fun _ _ _ => True)
    (hN₀ : N ≤ s₀.blocks.size) (hcN : c < N) (hin : Inside N c O₀ s₀ O s)
    (hw : WellBuilt sig O s) {bb next : Nat} (hbb : Unfilled N c O s bb) (hnext : N ≤ next)
    (hnext' : next < s.blocks.size) (hpn : O.parent next = c) (hphi : s.NoPhi next)
    (hJ : ∀ t O' s', Inside N c O₀ s₀ O' s' → WellBuilt sig O' s' → Extends O s O' s' →
      (∀ x < s.blocks.size, x ≠ bb → ∀ k, s'.inst? x k = s.inst? x k) →
      Within sig N c O₀ s₀ s' (J t) Q) :
    Within sig N c O₀ s₀ s (positionAt bb >>= fun _ => genBlock sig.ret fuel ss >>= fun _ =>
      isTerminated >>= fun t => if (!t) = true then emit (.br next) >>= fun _ => J t else J t)
      Q := by
  refine (enter hin hw hbb.own hbb.lt hbb.above).bind fun O₁ _ s₁ hin₁ hw₁ h₁ => ?_
  obtain ⟨hO₁, hs₁⟩ := h₁
  subst O₁ s₁
  refine (nested hN₀ hin₁ hw₁ (hblock _ _ hw₁)).bind fun O₂ _ s₂ hin₂ hw₂ h₂ => ?_
  obtain ⟨hg₂, -⟩ := h₂
  refine (of_builds hN₀ hin₂ hw₂ (isTerminated_builds hw₂)).bind
    fun O₃ t s₃ hin₃ hw₃ h₃ => ?_
  obtain ⟨-, hO₃, hs₃⟩ := h₃
  subst O₃ s₃
  -- the statements grew the state from `bb`, leaving the other blocks that existed alone
  have he₁ : Extends O s O { s with current := bb } := Extends.same rfl rfl
  have he : Extends O s O₂ s₂ := he₁.trans hg₂.grown
  have hothers : ∀ x < s.blocks.size, x ≠ bb → ∀ k, s₂.inst? x k = s.inst? x k :=
    hg₂.confined.others
  split
  · have hc₂ := hw₂.current_lt
    have hcur : s₂.current = bb ∨ s.blocks.size ≤ s₂.current := hg₂.confined.current
    have hbelow : Code.Above O₂.parent c s₂.current :=
      (hw₁.above_extend hg₂.grown hbb.lt hbb.above).trans hg₂.below
    refine (br hin₂ hw₂ hcN hbelow hnext (hnext'.trans_le he.size_le)
      ((he.parent next hnext').trans hpn) (hg₂.confined.noPhi hnext' hphi)).bind
      fun O₄ _ s₄ hin₄ hw₄ h₄ => ?_
    obtain ⟨hO₄, hs₄⟩ := h₄
    subst O₄ s₄
    refine hJ t O₂ _ hin₄ hw₄ (he.trans (Extends.emitted hc₂ _)) fun x hx hne k => ?_
    have hxc : x ≠ s₂.current := by
      rcases hcur with h | h <;> omega
    rw [GenState.inst?_emitted_of_ne hc₂ hxc k]
    exact hothers x hx hne k
  · exact hJ t O₂ s₂ hin₂ hw₂ he hothers

end Within

/-! ## Every statement -/

/-- What the statement generators build with nesting budget `fuel`, in a function of signature
`sig`: from every well-built state, a well-built one. -/
structure StmtBuilds (sig : Signature) (fuel : Nat) : Prop where
  block : ∀ O s ss, WellBuilt sig O s →
    Builds sig O s (genBlock sig.ret fuel ss) fun _ _ _ => True
  stmt : ∀ O s st, WellBuilt sig O s →
    Builds sig O s (genStmt sig.ret fuel st) fun _ _ _ => True
  cond : ∀ O s c b o, WellBuilt sig O s →
    Builds sig O s (genIf sig.ret fuel c b o) fun _ _ _ => True
  loop : ∀ O s t ts it b, WellBuilt sig O s →
    Builds sig O s (genFor sig.ret fuel t ts it b) fun _ _ _ => True

/-- With no budget left every statement generator fails at once. -/
theorem stmtBuilds_zero : StmtBuilds sig 0 := by
  refine ⟨fun _ _ _ _ => ?_, fun _ _ _ _ => ?_, fun _ _ _ _ _ _ => ?_,
    fun _ _ _ _ _ _ _ => ?_⟩
  · rw [genBlock]
    exact Builds.fail
  · rw [genStmt]
    exact Builds.fail
  · rw [genIf]
    exact Builds.fail
  · rw [genFor]
    exact Builds.fail

section Constructs

variable (ih : StmtBuilds sig fuel)
include ih

/-- An `if` branches on its test to the then-block and to the else-block, or to the join when
there are no else-statements. -/
theorem genIf_builds (hw : WellBuilt sig O s) (test : Expr) (body orelse : List Stmt) :
    Builds sig O s (genIf sig.ret (fuel + 1) test body orelse) fun _ _ _ => True := by
  rw [genIf]
  dsimp only
  refine ((exprBuilds sig fuel).expr O s test hw).bind fun O₁ cv s₁ _ hw₁ hcv => ?_
  refine (toBool_builds hw₁ hcv _).bind fun O₂ flag s₂ _ hw₂ hflag => Builds.of_within ?_
  -- the construct starts in the test's last block
  have hin₂ : Inside s₂.blocks.size s₂.current O₂ s₂ O₂ s₂ := Grows.refl O₂ s₂
  have hcN := hw₂.current_lt
  refine (Within.append le_rfl hin₂ hw₂ rfl _).bind fun O₃ thenBb s₃ hin₃ hw₃ h₃ => ?_
  obtain ⟨rfl, hc₃, hthen₃, -⟩ := h₃
  have hlt₃ := hthen₃.lt
  split
  · -- no else-statements: the test branches to the then-block or the join
    rw [pure_bind]
    dsimp only
    refine (Within.append le_rfl hin₃ hw₃ hc₃ _).bind fun O₄ endBb s₄ hin₄ hw₄ h₄ => ?_
    obtain ⟨rfl, hc₄, hend₄, hk₄⟩ := h₄
    have hc : s₄.current = s₂.current := hc₄.trans hc₃
    have hc₄' := hw₄.current_lt
    have hthen₄ := hk₄ _ hthen₃
    refine (Within.condBr hin₄ hw₄ hcN (hc ▸ Code.Above.refl _)
      (hflag.extend hw₂ hin₄.grown hc) hthen₄ hend₄).bind fun O₅ _ s₅ hin₅ hw₅ h₅ => ?_
    obtain ⟨hO₅, hs₅⟩ := h₅
    subst O₅ s₅
    have hend₅ := hend₄.emitted hc₄' (by omega) (.condBr flag s₂.blocks.size s₃.blocks.size)
    refine Within.arm (ih.block · · body) le_rfl hcN hin₅ hw₅
      (hthen₄.emitted hc₄' (by omega) _) hend₅.own hend₅.lt hend₅.parent hend₅.noPhi
      fun _ O₆ s₆ hin₆ hw₆ he₆ hothers₆ => ?_
    exact Within.join le_rfl hin₆ hw₆ (hend₅.keep he₆ (hothers₆ _ hend₅.lt (by omega))) _
  · -- else-statements: the test branches to the then-block or the else-block
    rw [bind_map_left]
    dsimp only
    refine (Within.append le_rfl hin₃ hw₃ hc₃ _).bind fun O₄ elseBb s₄ hin₄ hw₄ h₄ => ?_
    obtain ⟨rfl, hc₄, helse₄, hk₄⟩ := h₄
    have hlt₄ := helse₄.lt
    refine (Within.append le_rfl hin₄ hw₄ (hc₄.trans hc₃) _).bind
      fun O₅ endBb s₅ hin₅ hw₅ h₅ => ?_
    obtain ⟨rfl, hc₅, hend₅, hk₅⟩ := h₅
    have hc : s₅.current = s₂.current := hc₅.trans (hc₄.trans hc₃)
    have hc₅' := hw₅.current_lt
    have hthen₅ := hk₅ _ (hk₄ _ hthen₃)
    have helse₅ := hk₅ _ helse₄
    refine (Within.condBr hin₅ hw₅ hcN (hc ▸ Code.Above.refl _)
      (hflag.extend hw₂ hin₅.grown hc) hthen₅ helse₅).bind fun O₆ _ s₆ hin₆ hw₆ h₆ => ?_
    obtain ⟨hO₆, hs₆⟩ := h₆
    subst O₆ s₆
    have helse₆ := helse₅.emitted hc₅' (by omega) (.condBr flag s₂.blocks.size s₃.blocks.size)
    have hend₆ := hend₅.emitted hc₅' (by omega) (.condBr flag s₂.blocks.size s₃.blocks.size)
    refine Within.arm (ih.block · · body) le_rfl hcN hin₆ hw₆
      (hthen₅.emitted hc₅' (by omega) _) hend₆.own hend₆.lt hend₆.parent hend₆.noPhi
      fun _ O₇ s₇ hin₇ hw₇ he₇ hothers₇ => ?_
    -- the then-arm left the else-block and the join alone
    have helse₇ := helse₆.keep he₇ (hothers₇ _ helse₆.lt (by omega))
    have hend₇ := hend₆.keep he₇ (hothers₇ _ hend₆.lt (by omega))
    refine Within.arm (ih.block · · orelse) le_rfl hcN hin₇ hw₇ helse₇ hend₇.own hend₇.lt
      hend₇.parent hend₇.noPhi fun _ O₈ s₈ hin₈ hw₈ he₈ hothers₈ => ?_
    exact Within.join le_rfl hin₈ hw₈ (hend₇.keep he₈ (hothers₈ _ hend₇.lt (by omega))) _

/-- A `while` loop branches to its test block, which branches on the test to the body or the
exit; the body branches back to the test block, which holds no phi, when control falls off its
end. -/
theorem genWhile_builds (hw : WellBuilt sig O s) (test : Expr) (body : List Stmt) (sp : Span) :
    Builds sig O s (genStmt sig.ret (fuel + 1) (.whileLoop test body sp))
      fun _ _ _ => True := by
  rw [genStmt]
  dsimp only
  refine Builds.of_within ?_
  have hin : Inside s.blocks.size s.current O s O s := Grows.refl O s
  have hcN := hw.current_lt
  refine (Within.append le_rfl hin hw rfl _).bind fun O₁ condBb s₁ hin₁ hw₁ h₁ => ?_
  obtain ⟨rfl, hc₁, hcond₁, -⟩ := h₁
  refine (Within.append le_rfl hin₁ hw₁ hc₁ _).bind fun O₂ bodyBb s₂ hin₂ hw₂ h₂ => ?_
  obtain ⟨rfl, hc₂, hbody₂, hk₂⟩ := h₂
  refine (Within.append le_rfl hin₂ hw₂ (hc₂.trans hc₁) _).bind
    fun O₃ exitBb s₃ hin₃ hw₃ h₃ => ?_
  obtain ⟨rfl, hc₃, hexit₃, hk₃⟩ := h₃
  have hc : s₃.current = s.current := hc₃.trans (hc₂.trans hc₁)
  have hc₃' := hw₃.current_lt
  have hcond₃ := hk₃ _ (hk₂ _ hcond₁)
  have hbody₃ := hk₃ _ hbody₂
  have hlt₁ := hcond₁.lt
  have hlt₂ := hbody₂.lt
  have hlt₃ := hexit₃.lt
  -- into the test block, which evaluates the test as a construct of its own
  refine (Within.br hin₃ hw₃ hcN (hc ▸ Code.Above.refl _) hcond₃.own hcond₃.lt hcond₃.parent
    hcond₃.noPhi).bind fun O₄ _ s₄ hin₄ hw₄ h₄ => ?_
  obtain ⟨hO₄, hs₄⟩ := h₄
  subst O₄ s₄
  have hcond₄ := hcond₃.emitted hc₃' (by omega) (.br s.blocks.size)
  have hbody₄ := hbody₃.emitted hc₃' (by omega) (.br s.blocks.size)
  have hexit₄ := hexit₃.emitted hc₃' (by omega) (.br s.blocks.size)
  refine (Within.enter hin₄ hw₄ hcond₄.own hcond₄.lt hcond₄.above).bind
    fun O₅ _ s₅ hin₅ hw₅ h₅ => ?_
  obtain ⟨hO₅, hs₅⟩ := h₅
  subst O₅ s₅
  refine (Within.nested le_rfl hin₅ hw₅ ((exprBuilds sig fuel).expr _ _ test hw₅)).bind
    fun O₆ cv s₆ hin₆ hw₆ h₆ => ?_
  obtain ⟨hg₆, hcv⟩ := h₆
  refine (Within.nested le_rfl hin₆ hw₆ (toBool_builds hw₆ hcv _)).bind
    fun O₇ flag s₇ hin₇ hw₇ h₇ => ?_
  obtain ⟨hg₇, hflag⟩ := h₇
  have hg := hg₆.trans hw₆ hg₇
  have hne₁ : s₁.blocks.size ≠ s.blocks.size := by omega
  have hne₂ : s₂.blocks.size ≠ s.blocks.size := by omega
  have hbody₇ := (hbody₄.enter s.blocks.size).grow hg hne₁
  have hexit₇ := (hexit₄.enter s.blocks.size).grow hg hne₂
  have hbelow : Code.Above O₇.parent s.current s₇.current :=
    (hw₅.above_extend hg.grown hcond₄.lt hcond₄.above).trans hg.below
  refine (Within.condBr hin₇ hw₇ hcN hbelow hflag hbody₇ hexit₇).bind
    fun O₈ _ s₈ hin₈ hw₈ h₈ => ?_
  obtain ⟨hO₈, hs₈⟩ := h₈
  subst O₈ s₈
  have hc₇ := hw₇.current_lt
  have hcur₇ : s₇.current = s.blocks.size ∨ s₃.blocks.size ≤ s₇.current := by
    simpa [GenState.size_emitted] using hg.confined.current
  have hne₇₁ : s₁.blocks.size ≠ s₇.current := by
    rcases hcur₇ with h | h <;> omega
  have hne₇₂ : s₂.blocks.size ≠ s₇.current := by
    rcases hcur₇ with h | h <;> omega
  -- the test added no phi to its own block, so the back edge may go there
  have hphi : (s₇.emitted (.condBr flag s₁.blocks.size s₂.blocks.size)).NoPhi s.blocks.size :=
    GenState.noPhi_emitted hc₇ (hg.confined.noPhi hcond₄.lt hcond₄.noPhi) rfl
  have hexit₈ := hexit₇.emitted hc₇ hne₇₂ (.condBr flag s₁.blocks.size s₂.blocks.size)
  refine Within.arm (ih.block · · body) le_rfl hcN hin₈ hw₈ (hbody₇.emitted hc₇ hne₇₁ _)
    hcond₄.own (by have := hexit₈.lt; omega) ((hg.grown.parent _ hcond₄.lt).trans hcond₄.parent)
    hphi fun _ O₉ s₉ hin₉ hw₉ he₉ hothers₉ => ?_
  exact Within.last hin₉ hw₉ (hexit₈.keep he₉ (hothers₉ _ hexit₈.lt (by omega)))

/-- The blocks of a counted loop: the test block compares the counter with the stop value and
branches to the body or the exit; the body branches on to the increment block, which adds one to
the counter and branches back to the test block. -/
theorem forBlocks_builds (hw : WellBuilt sig O s) {kind : ScalarType} (hk : kind.isReal = false)
    {counter : Nat} (hcounter : (counter, .scalar kind) ∈ O.slots) {stopOp : Operand}
    (hstop : stopOp.Ready sig O s (.scalar kind)) (body : List Stmt) :
    Builds sig O s (forBlocks sig.ret fuel kind counter stopOp body) fun _ _ _ => True := by
  unfold forBlocks
  dsimp only
  refine Builds.of_within ?_
  have hin : Inside s.blocks.size s.current O s O s := Grows.refl O s
  have hcN := hw.current_lt
  refine (Within.append le_rfl hin hw rfl _).bind fun O₁ condBb s₁ hin₁ hw₁ h₁ => ?_
  obtain ⟨rfl, hc₁, hcond₁, -⟩ := h₁
  refine (Within.append le_rfl hin₁ hw₁ hc₁ _).bind fun O₂ bodyBb s₂ hin₂ hw₂ h₂ => ?_
  obtain ⟨rfl, hc₂, hbody₂, hk₂⟩ := h₂
  refine (Within.append le_rfl hin₂ hw₂ (hc₂.trans hc₁) _).bind
    fun O₃ incrBb s₃ hin₃ hw₃ h₃ => ?_
  obtain ⟨rfl, hc₃, hincr₃, hk₃⟩ := h₃
  refine (Within.append le_rfl hin₃ hw₃ (hc₃.trans (hc₂.trans hc₁)) _).bind
    fun O₄ exitBb s₄ hin₄ hw₄ h₄ => ?_
  obtain ⟨rfl, hc₄, hexit₄, hk₄⟩ := h₄
  have hc : s₄.current = s.current := hc₄.trans (hc₃.trans (hc₂.trans hc₁))
  have hc₄' := hw₄.current_lt
  have hcond₄ := hk₄ _ (hk₃ _ (hk₂ _ hcond₁))
  have hbody₄ := hk₄ _ (hk₃ _ hbody₂)
  have hincr₄ := hk₄ _ hincr₃
  have hlt₁ := hcond₁.lt
  have hlt₂ := hbody₂.lt
  have hlt₃ := hincr₃.lt
  have hlt₄ := hexit₄.lt
  -- into the test block
  refine (Within.br hin₄ hw₄ hcN (hc ▸ Code.Above.refl _) hcond₄.own hcond₄.lt hcond₄.parent
    hcond₄.noPhi).bind fun O₅ _ s₅ hin₅ hw₅ h₅ => ?_
  obtain ⟨hO₅, hs₅⟩ := h₅
  subst O₅ s₅
  have hcond₅ := hcond₄.emitted hc₄' (by omega) (.br s.blocks.size)
  have hbody₅ := hbody₄.emitted hc₄' (by omega) (.br s.blocks.size)
  have hincr₅ := hincr₄.emitted hc₄' (by omega) (.br s.blocks.size)
  have hexit₅ := hexit₄.emitted hc₄' (by omega) (.br s.blocks.size)
  have hstop₅ : stopOp.Ready sig O₄ (s₄.emitted (.br s.blocks.size)) (.scalar kind) :=
    hstop.extend hw hin₅.grown hc
  refine (Within.enter hin₅ hw₅ hcond₅.own hcond₅.lt hcond₅.above).bind
    fun O₆ _ s₆ hin₆ hw₆ h₆ => ?_
  obtain ⟨hO₆, hs₆⟩ := h₆
  subst O₆ s₆
  -- the test: the counter against the stop value
  have hslot₆ := hin₆.grown.slots _ hcounter
  refine (Within.nested le_rfl hin₆ hw₆ (load_builds hw₆ (hw₆.slot_ready hslot₆))).bind
    fun O₇ cur s₇ hin₇ hw₇ h₇ => ?_
  obtain ⟨hg₇, hcur⟩ := h₇
  have hstop₇ := (hstop₅.enter (by rw [GenState.current_emitted, hc]; exact hcond₅.above)).grow hw₆ hg₇
  refine (Within.nested le_rfl hin₇ hw₇ (icmp_builds hw₇ hk hcur hstop₇ .slt)).bind
    fun O₈ more s₈ hin₈ hw₈ h₈ => ?_
  obtain ⟨hg₈, hmore⟩ := h₈
  have hg := hg₇.trans hw₇ hg₈
  have hne₁ : s₁.blocks.size ≠ s.blocks.size := by omega
  have hne₃ : s₃.blocks.size ≠ s.blocks.size := by omega
  have hne₂ : s₂.blocks.size ≠ s.blocks.size := by omega
  have hbody₈ := (hbody₅.enter s.blocks.size).grow hg hne₁
  have hexit₈ := (hexit₅.enter s.blocks.size).grow hg hne₃
  have hincr₈ := (hincr₅.enter s.blocks.size).grow hg hne₂
  have hbelow : Code.Above O₈.parent s.current s₈.current :=
    (hw₆.above_extend hg.grown hcond₅.lt hcond₅.above).trans hg.below
  refine (Within.condBr hin₈ hw₈ hcN hbelow hmore hbody₈ hexit₈).bind
    fun O₉ _ s₉ hin₉ hw₉ h₉ => ?_
  obtain ⟨hO₉, hs₉⟩ := h₉
  subst O₉ s₉
  have hc₈ := hw₈.current_lt
  have hcur₈ : s₈.current = s.blocks.size ∨ s₄.blocks.size ≤ s₈.current := by
    simpa [GenState.size_emitted] using hg.confined.current
  have hne₈₁ : s₁.blocks.size ≠ s₈.current := by
    rcases hcur₈ with h | h <;> omega
  have hne₈₂ : s₂.blocks.size ≠ s₈.current := by
    rcases hcur₈ with h | h <;> omega
  have hne₈₃ : s₃.blocks.size ≠ s₈.current := by
    rcases hcur₈ with h | h <;> omega
  have hphi : (s₈.emitted (.condBr more s₁.blocks.size s₃.blocks.size)).NoPhi s.blocks.size :=
    GenState.noPhi_emitted hc₈ (hg.confined.noPhi hcond₅.lt hcond₅.noPhi) rfl
  have hincr₉ := hincr₈.emitted hc₈ hne₈₂ (.condBr more s₁.blocks.size s₃.blocks.size)
  have hexit₉ := hexit₈.emitted hc₈ hne₈₃ (.condBr more s₁.blocks.size s₃.blocks.size)
  have hpcond : O₈.parent s.blocks.size = s.current :=
    (hg.grown.parent _ hcond₅.lt).trans hcond₅.parent
  refine Within.arm (ih.block · · body) le_rfl hcN hin₉ hw₉ (hbody₈.emitted hc₈ hne₈₁ _)
    hincr₉.own hincr₉.lt hincr₉.parent hincr₉.noPhi fun _ O₁₀ s₁₀ hin₁₀ hw₁₀ he₁₀ hothers₁₀ => ?_
  -- the increment block: one more on the counter, and back to the test block
  have hincr₁₀ := hincr₉.keep he₁₀ (hothers₁₀ _ hincr₉.lt (by omega))
  have hexit₁₀ := hexit₉.keep he₁₀ (hothers₁₀ _ hexit₉.lt (by omega))
  have hphi₁₀ : s₁₀.NoPhi s.blocks.size :=
    GenState.noPhi_of_inst? (hothers₁₀ _ (by have := hincr₉.lt; omega) (by omega)) hphi
  refine (Within.enter hin₁₀ hw₁₀ hincr₁₀.own hincr₁₀.lt hincr₁₀.above).bind
    fun O₁₁ _ s₁₁ hin₁₁ hw₁₁ h₁₁ => ?_
  obtain ⟨hO₁₁, hs₁₁⟩ := h₁₁
  subst O₁₁ s₁₁
  have hslot₁₁ := hin₁₀.grown.slots _ hcounter
  refine (Within.nested le_rfl hin₁₁ hw₁₁ (load_builds hw₁₁ (hw₁₁.slot_ready hslot₁₁))).bind
    fun O₁₂ cur' s₁₂ hin₁₂ hw₁₂ h₁₂ => ?_
  obtain ⟨hg₁₂, hcur'⟩ := h₁₂
  refine (Within.nested le_rfl hin₁₂ hw₁₂ (binary_builds hw₁₂ (show Mty.IsArith BinaryOp.add.isReal (.scalar kind) from hk) hcur'
    (.const (.of_scalar (Scalar.ty_ofInt kind 1))))).bind fun O₁₃ next s₁₃ hin₁₃ hw₁₃ h₁₃ => ?_
  obtain ⟨hg₁₃, hnext⟩ := h₁₃
  have hg₁ := hg₁₂.trans hw₁₂ hg₁₃
  refine (Within.nested le_rfl hin₁₃ hw₁₃ (store_builds hw₁₃ hnext
    (hw₁₃.slot_ready (hg₁.grown.slots _ hslot₁₁)))).bind fun O₁₄ _ s₁₄ hin₁₄ hw₁₄ h₁₄ => ?_
  obtain ⟨hg₁₄, -⟩ := h₁₄
  have hg₂ := hg₁.trans hw₁₃ hg₁₄
  have hbelow₁₄ : Code.Above O₁₄.parent s.current s₁₄.current :=
    (hw₁₁.above_extend hg₂.grown hincr₁₀.lt hincr₁₀.above).trans hg₂.below
  have hlt₁₀ : s.blocks.size < s₁₀.blocks.size := by have := hincr₁₀.lt; omega
  refine (Within.br hin₁₄ hw₁₄ hcN hbelow₁₄ le_rfl (hlt₁₀.trans_le hg₂.grown.size_le)
    ((hg₂.grown.parent _ hlt₁₀).trans ((he₁₀.parent _ (by have := hincr₉.lt; omega)).trans
      hpcond)) (hg₂.confined.noPhi hlt₁₀ hphi₁₀)).bind fun O₁₅ _ s₁₅ hin₁₅ hw₁₅ h₁₅ => ?_
  obtain ⟨hO₁₅, hs₁₅⟩ := h₁₅
  subst O₁₅ s₁₅
  have hcur₁₄ : s₁₄.current = s₂.blocks.size ∨ s₁₀.blocks.size ≤ s₁₄.current :=
    hg₂.confined.current
  have hne₃₂ : s₃.blocks.size ≠ s₂.blocks.size := by omega
  have hexit₁₄ := (hexit₁₀.enter s₂.blocks.size).grow hg₂ hne₃₂
  exact Within.last hin₁₅ hw₁₅ (hexit₁₄.emitted hw₁₄.current_lt
    (by rcases hcur₁₄ with h | h <;> have := hexit₁₀.lt <;> omega) _)

/-- A counted loop: its counter gets a slot holding the converted start value, and the stop
value is converted once to the counter's integer type before the loop's blocks. -/
theorem genFor_builds (hw : WellBuilt sig O s) (target : String) (ts : Span) (iter : Expr)
    (body : List Stmt) :
    Builds sig O s (genFor sig.ret (fuel + 1) target ts iter body) fun _ _ _ => True := by
  rw [genFor_eq]
  refine (loopBounds_builds hw iter).bind fun O₁ bounds s₁ _ _ h₁ => ?_
  obtain ⟨hO₁, hs₁⟩ := h₁
  subst O₁ s₁
  obtain ⟨start?, stop⟩ := bounds
  refine Builds.bind_get (Builds.bind_lift fun _ _ => ?_)
  extract_lets counted
  -- from the start value on: the stop value, the counter's type, its slot and the loop
  have hcounted : ∀ O₂ s₂ (start : TValue), WellBuilt sig O₂ s₂ → start.Ready sig O₂ s₂ →
      Builds sig O₂ s₂ (counted start) fun _ _ _ => True := by
    intro O₂ s₂ start hw₂ hstart
    simp only [counted]
    refine ((exprBuilds sig fuel).expr O₂ s₂ stop hw₂).bind
      fun O₃ stopValue s₃ hg₃ hw₃ hstop => ?_
    split
    · split
      · rename_i kind _ hkind
        rw [pure_bind]
        have hk : kind.isReal = false := ((ScalarType.isInteger_iff kind).1 hkind).2
        refine (allocaFor_builds hw₃ _ target ts).bind fun O₅ counter s₅ hg₅ hw₅ h₅ => ?_
        obtain ⟨m, hm, hslot⟩ := h₅
        cases hm
        refine (declareLocal_builds hw₅ target _ counter ts ⟨_, rfl, hslot⟩).bind
          fun O₆ _ s₆ hg₆ hw₆ hO₆ => ?_
        subst hO₆
        have hg₆' := hg₅.trans hw₅ hg₆
        refine (castValue_scalar_builds hw₆ ((hstart.grow hw₂ hg₃).grow hw₃ hg₆') kind _).bind
          fun O₇ initial s₇ hg₇ hw₇ hinit => ?_
        have hslot₇ := hg₇.grown.slots _ hslot
        refine (store_builds hw₇ hinit (hw₇.slot_ready hslot₇)).bind fun O₈ _ s₈ hg₈ hw₈ _ => ?_
        have hg₈' := (hg₆'.trans hw₆ hg₇).trans hw₇ hg₈
        refine (castValue_scalar_builds hw₈ (hstop.grow hw₃ hg₈') kind _).bind
          fun O₉ stopOp s₉ hg₉ hw₉ hstopOp => ?_
        exact forBlocks_builds ih hw₉ hk (hg₉.grown.slots _ (hg₈.grown.slots _ hslot₇)) hstopOp
          body
      · exact Gen.Yields.fail_bind
    · exact Gen.Yields.fail_bind
  split
  · exact ((exprBuilds sig fuel).expr O s _ hw).bind fun O₂ start s₂ _ hw₂ hstart =>
      hcounted O₂ s₂ start hw₂ hstart
  · rw [pure_bind]
    exact hcounted O s _ hw trivial

/-- A statement list stops at the first statement that leaves its block ended. -/
theorem genBlock_builds (hw : WellBuilt sig O s) (ss : List Stmt) :
    Builds sig O s (genBlock sig.ret (fuel + 1) ss) fun _ _ _ => True := by
  cases ss with
  | nil =>
    rw [genBlock]
    exact Builds.pure hw trivial
  | cons st rest =>
    rw [genBlock]
    refine (isTerminated_builds hw).bind fun O₁ t s₁ _ hw₁ _ => ?_
    split
    · exact Builds.pure hw₁ trivial
    · refine (Builds.mapError (ih.stmt O₁ s₁ st hw₁)).bind fun O₂ _ s₂ _ hw₂ _ => ?_
      exact ih.block O₂ s₂ rest hw₂

theorem genStmt_builds (hw : WellBuilt sig O s) (st : Stmt) :
    Builds sig O s (genStmt sig.ret (fuel + 1) st) fun _ _ _ => True := by
  cases st with
  | assign target value _ =>
    rw [genStmt]
    exact genAssign_builds hw fuel target value
  | augAssign target op value sp => exact genAugAssign_builds hw target op value sp
  | eval e sp => exact genEval_builds hw e sp
  | branch test body orelse _ =>
    rw [genStmt]
    exact ih.cond O s test body orelse hw
  | forLoop target ts iter body _ =>
    rw [genStmt]
    exact ih.loop O s target ts iter body hw
  | whileLoop test body sp => exact genWhile_builds ih hw test body sp
  | ret value sp =>
    rw [genStmt]
    exact genReturn_builds hw fuel value sp
  | pass _ =>
    rw [genStmt]
    exact Builds.pure hw trivial
  | unsupported _ _ =>
    rw [genStmt]
    exact Builds.fail

end Constructs

/-- Every statement generator, with every budget, builds well from every well-built state. -/
theorem stmtBuilds (sig : Signature) (fuel : Nat) : StmtBuilds sig fuel := by
  induction fuel with
  | zero => exact stmtBuilds_zero
  | succ fuel ih =>
    exact ⟨fun O s ss hw => genBlock_builds ih hw ss, fun O s st hw => genStmt_builds ih hw st,
      fun O s c b o hw => genIf_builds ih hw c b o,
      fun O s t ts it b hw => genFor_builds ih hw t ts it b⟩

end TypedJit.Codegen

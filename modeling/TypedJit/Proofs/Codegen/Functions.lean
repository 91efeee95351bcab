import TypedJit.Proofs.Codegen.Assembly

/-!
Compiled functions pass the verifier.
-/

namespace TypedJit.Codegen

open Machine

/-! ## The signature -/

/-- A validated signature has no `Void` parameter and no bounded-array parameter. -/
theorem Signature.params_of_validate {name : String} {sig : Signature} {sp : Span}
    (h : sig.validate name sp = .ok ()) :
    ∀ p ∈ sig.params, p ≠ .void ∧ ∀ e n, p ≠ .array e n := by
  unfold Signature.validate at h
  obtain ⟨⟨⟩, hloop, -⟩ := Except.bind_eq_ok.1 h
  generalize sig.params = l at hloop ⊢
  generalize 0 = n at hloop
  -- the loop over the parameters, one parameter at a time, from any index
  induction l generalizing n with
  | nil => simp
  | cons p l ih =>
    simp only [List.zipIdx_cons, List.forIn_cons] at hloop
    have hp : p ≠ .void ∧ ∀ e n, p ≠ .array e n := by
      cases p <;> simp_all [Except.bind_eq_ok]
    intro q hq
    rcases List.mem_cons.1 hq with rfl | hq
    · exact hp
    · refine ih (n + 1) ?_ q hq
      cases p <;> simp_all [Except.bind_eq_ok]

/-- Without `Void` parameters, the machine parameter types line up with the parameters. -/
theorem getElem?_filterMap_ofTy {ps : List Ty} (h : ∀ p ∈ ps, p ≠ .void) (i : Nat) :
    (ps.filterMap Mty.ofTy)[i]? = ps[i]?.bind Mty.ofTy := by
  induction ps generalizing i with
  | nil => simp
  | cons p ps ih =>
    obtain ⟨m, hm⟩ : ∃ m, Mty.ofTy p = some m := by
      cases p <;> simp_all [Mty.ofTy]
    cases i with
    | zero => simp [hm]
    | succ i => simp [hm, ih (fun q hq => h q (List.mem_cons_of_mem _ hq))]

/-! ## The entry block -/

/-- The outline when the entry block has just been entered: the parameters have their machine
types, and there is no slot yet. -/
def entryOutline (sig : Signature) : Outline where
  parent _ := 0
  type r := (machineSignature sig).1[r]?
  slots := []

variable {sig : Signature} {O : Outline} {s : GenState}

/-- A state holding only its current entry block, empty, with the parameters' registers taken and
no name declared. -/
theorem WellBuilt.entry {l : String} (hb : s.blocks = #[{ label := l }]) (hc : s.current = 0)
    (hn : s.nextReg = sig.params.length) (hp : s.entryPrefix = []) (hl : s.scope.locals = []) :
    WellBuilt sig (entryOutline sig) s := by
  have hnone : ∀ b k, s.inst? b k = none := by
    intro b k
    cases b <;> simp [GenState.inst?, hb]
  have hwrites : ∀ r b k, ¬ s.Writes r b k := by
    rintro r b k ⟨i, hi, -⟩
    simp [hnone] at hi
  exact {
    current_lt := by simp [hb, hc]
    root := rfl
    parent_lt := fun b hb0 hb1 => by simp [hb] at hb1; omega
    params_le := by omega
    params_typed := fun _ _ => rfl
    prefix_eq := by rw [hp]; rfl
    slots_typed := fun _ _ h => absurd h List.not_mem_nil
    slots_range := fun _ _ h => absurd h List.not_mem_nil
    slots_nodup := List.nodup_nil
    writes_range := fun r b k h => absurd h (hwrites r b k)
    writes_once := fun r b k _ _ h => absurd h (hwrites r b k)
    writes_not_slot := fun r b k _ h => absurd h (hwrites r b k)
    typed := fun b k i hi => by simp [hnone] at hi
    targets := fun b k i hi => by simp [hnone] at hi
    phis := fun b k i hi => by simp [hnone] at hi
    uses := fun b k i hi => by simp [hnone] at hi
    incoming := fun b k i hi => by simp [hnone] at hi
    scope := by simp [hl] }

/-- Under a validated signature, the register of a parameter holds a value of the parameter's
storage type in every block. -/
theorem WellBuilt.param_ready (hw : WellBuilt sig O s)
    (hparams : ∀ p ∈ sig.params, p ≠ .void ∧ ∀ e n, p ≠ .array e n) {i : Nat} {ty : Ty} {m : Mty}
    (hty : sig.params[i]? = some ty) (hm : Mty.storage ty = some m) :
    (Operand.reg i).Ready sig O s m := by
  have hi : i < sig.params.length := (List.getElem?_eq_some_iff.1 hty).1
  have harr := (hparams ty (List.mem_of_getElem? hty)).2
  -- the machine parameter types skip no parameter, and a parameter is stored as it travels
  have htype : O.type i = some m := by
    rw [hw.params_typed i hi, machineSignature,
      getElem?_filterMap_ofTy (fun q hq => (hparams q hq).1), hty, Option.bind_some,
      ← storage_eq_ofTy harr, hm]
  exact ⟨htype, fun r hr => by cases hr; exact .inl hi⟩

/-! ## Generation keeps the state well built -/

/-- The parameters and the body, generated from the start, end in a well-built state. -/
theorem genBody_builds (f : FunctionDef) (sig : Signature) (g : Globals) (symbol : String) :
    Gen.Yields (genBody f sig) (startState g sig symbol) fun _ st => ∃ O, WellBuilt sig O st := by
  unfold genBody
  extract_lets rest
  have hrest : Gen.Yields (rest ()) (startState g sig symbol) fun _ st =>
      ∃ O, WellBuilt sig O st := by
    simp only [rest]
    refine Gen.Yields.bind_lift fun _ hval => ?_
    have hparams := Signature.params_of_validate hval
    -- the entry block, created and entered
    refine Gen.Yields.bind (P := fun b s₁ => b = 0 ∧ s₁ = { startState g sig symbol with
        blocks := #[{ label := s!"entry_{0}" }], blockCounter := 1 })
      (Gen.Yields.of_run (fun _ => rfl) ⟨rfl, rfl⟩) fun b s₁ h₁ => ?_
    obtain ⟨rfl, rfl⟩ := h₁
    refine Gen.Yields.bind (P := fun _ s₂ => WellBuilt sig (entryOutline sig) s₂)
      (Gen.Yields.of_run (fun _ => rfl) (WellBuilt.entry rfl rfl rfl rfl rfl)) fun _ s₂ hw => ?_
    -- the parameters into their slots, then the body
    refine Gen.Yields.mono (P := fun _ s' => ∃ O', Grows (entryOutline sig) s₂ O' s' ∧
        WellBuilt sig O' s' ∧ True)
      (Builds.bind (Builds.forIn ?_ hw) fun O₁ _ s₃ _ hw₃ _ =>
        (stmtBuilds sig nestingBudget).block O₁ s₃ f.body hw₃) fun _ _ h => ?_
    · -- one parameter: its register is stored into a new slot, to which its name is bound
      intro y hy _ O s hw
      obtain ⟨⟨p, ty⟩, i⟩ := y
      obtain ⟨-, hty⟩ := List.getElem?_zip_eq_some.1 (List.mem_zipIdx_iff_getElem?.1 hy)
      dsimp only
      refine Builds.bind_get (Builds.bind_lift fun _ _ => ?_)
      refine (allocaFor_builds hw ty p.name p.span).bind fun O₁ slot s₁ _ hw₁ h₁ => ?_
      obtain ⟨m, hm, hslot⟩ := h₁
      have hreg := hw₁.param_ready hparams hty hm
      refine (store_builds hw₁ hreg (hw₁.slot_ready hslot)).bind fun O₂ _ s₂ hg₂ hw₂ _ => ?_
      refine (declareLocal_builds hw₂ p.name ty slot p.span ⟨m, hm, hg₂.grown.slots _ hslot⟩).bind
        fun _ _ _ _ hw₃ _ => ?_
      exact Builds.pure hw₃ trivial
    · exact h.imp fun _ h => h.2.1
  split
  · exact Gen.Yields.fail_bind
  · exact hrest

/-- Closing the function: an open block of a `Void` function gets `ret void`. -/
theorem genClose_builds (hw : WellBuilt sig O s) (f : FunctionDef) :
    Builds sig O s (genClose f sig) fun _ _ _ => True := by
  unfold genClose
  refine (isTerminated_builds hw).bind fun O₁ t s₁ _ hw₁ h₁ => ?_
  obtain ⟨rfl, rfl, rfl⟩ := h₁
  split
  · split
    · have hret : Mty.ofTy sig.ret = none := by
        cases h : sig.ret <;> simp_all [Ty.isVoid, Mty.ofTy]
      refine (emit_builds hw₁ rfl rfl rfl (fun _ _ => ?_) fun _ h => ?_).mono
        fun _ _ _ _ => trivial
      · simp [Inst.WellTyped, hret]
      · simp [Inst.operands] at h
    · exact Builds.throw
  · exact Builds.pure hw₁ trivial

/-- A function generated from the start ends in a well-built state. -/
theorem genFunction_builds (f : FunctionDef) (sig : Signature) (g : Globals) (symbol : String) :
    Gen.Yields (genFunction f sig) (startState g sig symbol) fun _ st =>
      ∃ O, WellBuilt sig O st := by
  rw [genFunction_eq]
  refine (genBody_builds f sig g symbol).bind fun _ s h => ?_
  obtain ⟨O, hw⟩ := h
  exact Gen.Yields.mono (genClose_builds hw f) fun _ _ h => h.imp fun _ h => h.2.1

/-! ## Every block ends -/

/-- A function generated from the start leaves every block ended, the current one included, and
its blocks tidy. -/
theorem genFunction_ends (f : FunctionDef) (sig : Signature) (g : Globals) (symbol : String) :
    Gen.Yields (genFunction f sig) (startState g sig symbol) fun _ st =>
      st.Pending = ∅ ∧ st.terminated = true ∧ st.Tidy := by
  rw [genFunction_eq]
  refine (Gen.Yields.of_triple (genBody_ends f sig) ⟨rfl, rfl, rfl⟩).bind fun _ s h => ?_
  obtain ⟨-, htidy, hp⟩ := h
  intro t _ s' t' hrun
  rw [genClose_run] at hrun
  split at hrun
  · cases hrun
    exact ⟨hp, ‹_›, htidy⟩
  · split at hrun
    · -- the open block gets `ret void`, which ends it
      cases hrun
      have ho : s.terminated = false := by simpa using ‹¬s.terminated = true›
      exact ⟨by rw [GenState.pending_emitted, hp], by rw [GenState.terminated_emitted htidy]; rfl,
        htidy.emitted ho _⟩
    · cases hrun

/-! ## Compiled code verifies -/

/-- After a generation that succeeds, compiling the function succeeds with the assembled code when
that code passes the check `compileFunction` makes; the instruction counts it records leave the
result alone. -/
theorem compileFunction_of_wellTerminated {g : Globals} {f : FunctionDef} {sig : Signature}
    {symbol : String} {t t₁ : SessionStats} {st : GenState}
    (hgen : ((genFunction f sig).run (startState g sig symbol)).run.run t = (.ok ((), st), t₁))
    (ht : (assembled symbol sig st).wellTerminated = true) :
    ((compileFunction g f sig symbol).run t).1 =
      .ok ⟨assembled symbol sig st, (st.callees.mergeSort (· ≤ ·)).eraseDups⟩ := by
  change (Id.run ((compileFunction g f sig symbol).run t)).1 = _
  unfold compileFunction
  simp only [startState] at hgen
  simp only [StateT.run_bind, Id.run_bind, hgen]
  simp only [assembled] at ht
  simp only [Id.run, ht, Bool.not_true, Bool.false_eq_true, if_false]
  rfl

/-- When generating a function succeeds, compiling it succeeds: the code is assembled from the
state generation ends in, and it passes every check of the verifier, the one `compileFunction`
makes itself among them. Its blocks each end in their only terminator, its operands have the
types their instructions require, its phis head their blocks with one value per predecessor, and
every use of a register is dominated by its definition. -/
theorem generated_code_verifies (g : Globals) (f : FunctionDef) (sig : Signature)
    (symbol : String) (t t₁ : SessionStats) (st : GenState)
    (hgen : ((genFunction f sig).run (startState g sig symbol)).run.run t = (.ok ((), st), t₁)) :
    ∃ c, ((compileFunction g f sig symbol).run t).1 = .ok c ∧ c.code = assembled symbol sig st ∧
      c.code.Verifies := by
  obtain ⟨O, hw⟩ := genFunction_builds f sig g symbol t () st t₁ hgen
  obtain ⟨hp, ht, htidy⟩ := genFunction_ends f sig g symbol t () st t₁ hgen
  have hv : (assembled symbol sig st).Verifies := hw.verifies hp ht htidy
  exact ⟨_, compileFunction_of_wellTerminated hgen hv.terminated, rfl, hv⟩

/-- `def f(x: Int32) -> Void { y = x }`: the parameter goes to its slot, `y` gets a slot of its own
and the function is closed with `ret void`. Its generation succeeds, so it compiles to code the
verifier accepts. -/
theorem copy_param_code_verifies :
    ∃ c, ((compileFunction ⟨[]⟩ ⟨"f", [⟨"x", Span.unknown⟩],
        [.assign (.name "y" Span.unknown) (.name "x" Span.unknown) Span.unknown], Span.unknown,
        none⟩ ⟨.void, [.scalar .int32]⟩ "f").run {}).1 = .ok c ∧ c.code.Verifies := by
  obtain ⟨c, hc, -, hv⟩ := generated_code_verifies ⟨[]⟩ ⟨"f", [⟨"x", Span.unknown⟩],
    [.assign (.name "y" Span.unknown) (.name "x" Span.unknown) Span.unknown], Span.unknown, none⟩
    ⟨.void, [.scalar .int32]⟩ "f" {} _ _ rfl
  exact ⟨c, hc, hv⟩

end TypedJit.Codegen

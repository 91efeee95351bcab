import TypedJit.Proofs.Codegen.Calls

/-!
The dialect functions a compiled function calls.
-/

namespace TypedJit.Codegen

open Std.Do Machine

set_option mvcgen.warning false

attribute [local spec] emit_calls appendBlock_calls positionAt_calls genTarget_calls

section Stmt
variable {g : Globals}

/-- Declaring a local keeps the call discipline: it changes the locals only. -/
theorem CallsDeclared.with_scope {s : GenState} {sc : Scope Nat} (h : CallsDeclared g s)
    (hsc : sc.globals = s.scope.globals) : CallsDeclared g { s with scope := sc } :=
  ⟨hsc.trans h.1, h.2, h.3, h.4⟩

@[local spec]
theorem declareLocal_calls (n : String) (ty : Ty) (ptr : Nat) (sp : Span) :
    Keeps (discipline g).holds (declareLocal n ty ptr sp) := by
  mvcgen [declareLocal, Gen.lift]
  rename_i h _ hd
  exact h.with_scope (Scope.declare_globals hd)

@[local spec]
theorem declareName_calls (n : String) (ty : Ty) (ptr : Nat) (sp : Span) :
    Keeps (discipline g).holds (genVar.declareName n ty ptr sp) := by
  mvcgen [genVar.declareName, Gen.lift]
  rename_i h _ hd
  exact h.with_scope (Scope.declare_globals hd)

@[local spec]
theorem genVar_calls (args : List Expr) (kws : List Keyword) (sp : Span) :
    Keeps (discipline g).holds (genVar args kws sp) := by
  mvcgen [genVar, Gen.lift, Gen.fail] invariants
  · ⇓? _ s _ => ⌜(discipline g).holds s⌝
  -- the slot's precondition is the loop invariant itself
  assumption

@[local spec]
theorem loopBounds_calls (iter : Expr) : Keeps (discipline g).holds (loopBounds iter) := by
  mvcgen [loopBounds, Gen.fail]

/-- Every statement generator at nesting budget `fuel` keeps `P`. -/
structure StmtKeeps (P : GenState → Prop) (ret : Ty) (fuel : Nat) : Prop where
  block : ∀ ss, Keeps P (genBlock ret fuel ss)
  stmt : ∀ st, Keeps P (genStmt ret fuel st)
  assign : ∀ t v, Keeps P (genAssign ret fuel t v)
  cond : ∀ c b o, Keeps P (genIf ret fuel c b o)
  loop : ∀ t ts it b, Keeps P (genFor ret fuel t ts it b)
  returns : ∀ v sp, Keeps P (genReturn ret fuel v sp)

theorem stmtKeeps_zero (P : GenState → Prop) (ret : Ty) : StmtKeeps P ret 0 := by
  refine ⟨fun ss => ?_, fun st => ?_, fun t v => ?_, fun c b o => ?_, fun t ts it b => ?_,
    fun v sp => ?_⟩
  · mvcgen [genBlock, Gen.fail]
  · mvcgen [genStmt, Gen.fail]
  · mvcgen [genAssign, Gen.fail]
  · mvcgen [genIf, Gen.fail]
  · mvcgen [genFor, Gen.fail]
  · mvcgen [genReturn, Gen.fail]

variable {ret : Ty} {fuel : Nat}

@[local spec]
theorem isTerminated_calls : Keeps (discipline g).holds isTerminated := by
  mvcgen [isTerminated]

theorem genBlock_calls (ih : StmtKeeps (discipline g).holds ret fuel) (ss : List Stmt) :
    Keeps (discipline g).holds (genBlock ret (fuel + 1) ss) := by
  have hstmt := ih.stmt
  have hblock := ih.block
  cases ss <;> mvcgen [genBlock, hstmt, hblock]

theorem genStmt_calls (ih : StmtKeeps (discipline g).holds ret fuel) (st : Stmt) :
    Keeps (discipline g).holds (genStmt ret (fuel + 1) st) := by
  have hexpr := (exprKeeps_calls (g := g) fuel).expr
  have hdiscard : ∀ e, Keeps (discipline g).holds (discard (genExpr fuel e)) :=
    fun e => (hexpr e).discard
  have hblock := ih.block
  have hassign := ih.assign
  have hcond := ih.cond
  have hloop := ih.loop
  have hreturns := ih.returns
  mvcgen [genStmt, hexpr, hdiscard, hblock, hassign, hcond, hloop, hreturns, Gen.fail]
  all_goals simp [CallFree]

theorem genAssign_calls (t v : Expr) :
    Keeps (discipline g).holds (genAssign ret (fuel + 1) t v) := by
  have hexpr := (exprKeeps_calls (g := g) fuel).expr
  mvcgen [genAssign, hexpr, Gen.fail]

theorem genIf_calls (ih : StmtKeeps (discipline g).holds ret fuel) (c : Expr) (b o : List Stmt) :
    Keeps (discipline g).holds (genIf ret (fuel + 1) c b o) := by
  have hexpr := (exprKeeps_calls (g := g) fuel).expr
  have hblock := ih.block
  mvcgen [genIf, hexpr, hblock]
  all_goals simp [CallFree]

theorem genFor_calls (ih : StmtKeeps (discipline g).holds ret fuel) (t : String) (ts : Span)
    (it : Expr) (b : List Stmt) :
    Keeps (discipline g).holds (genFor ret (fuel + 1) t ts it b) := by
  have hexpr := (exprKeeps_calls (g := g) fuel).expr
  have hblock := ih.block
  mvcgen [genFor, hexpr, hblock, Gen.lift, Gen.fail]
  all_goals simp [CallFree]

theorem genReturn_calls (v : Option Expr) (sp : Span) :
    Keeps (discipline g).holds (genReturn ret (fuel + 1) v sp) := by
  have hexpr := (exprKeeps_calls (g := g) fuel).expr
  mvcgen [genReturn, hexpr, Gen.fail]
  all_goals simp [CallFree]

theorem stmtKeeps_calls (ret : Ty) (fuel : Nat) : StmtKeeps (discipline g).holds ret fuel := by
  induction fuel with
  | zero => exact stmtKeeps_zero _ ret
  | succ fuel ih =>
    exact ⟨genBlock_calls ih, genStmt_calls ih, genAssign_calls, genIf_calls ih,
      genFor_calls ih, genReturn_calls⟩

theorem genFunction_calls (f : FunctionDef) (sig : Signature) :
    Keeps (discipline g).holds (genFunction f sig) := by
  have hblock := (stmtKeeps_calls (g := g) sig.ret nestingBudget).block
  mvcgen [genFunction, hblock, Gen.lift, Gen.fail] invariants
  · ⇓? _ s _ => ⌜(discipline g).holds s⌝
  -- left over: the loop invariant at a parameter's slot, and that `ret` is no call
  all_goals first | assumption | simp [CallFree]

theorem compileFunction_ok {g : Globals} {f : FunctionDef} {sig : Signature} {symbol : String}
    {t t' : SessionStats} {c : Compiled}
    (h : (compileFunction g f sig symbol).run t = (.ok c, t')) :
    ∃ st t₁,
      (((genFunction f sig).run
          { blocks := #[], nextReg := sig.params.length, scope := { globals := g },
            declared := [(symbol, machineSignature sig)] }).run.run t) = (.ok ((), st), t₁) ∧
      c = { code :=
              { symbol, sig, registers := st.nextReg,
                blocks := st.blocks.modify 0 fun b =>
                  { b with insts := st.entryPrefix.toArray ++ b.insts } },
            callees := (st.callees.mergeSort (· ≤ ·)).eraseDups } := by
  unfold compileFunction at h
  replace h := congrArg Id.run h
  rcases hrun : ((genFunction f sig).run _).run.run t with ⟨r, t₁⟩
  simp only [StateT.run_bind, Id.run_bind, hrun] at h
  rcases r with e | ⟨⟨⟩, st⟩
  · simp [Id.run] at h
    cases h
  · refine ⟨st, t₁, rfl, ?_⟩
    simp [Id.run] at h
    split at h
    · cases h
    · simp at h
      exact (Except.ok.inj (congrArg Prod.fst h)).symm

/-- An instruction of the code assembled from a generator state was emitted into one of its
blocks or into the entry prefix. -/
theorem mem_assembled {blocks : Array Block} {pre : List Inst} {i : Inst} {b : Block}
    (hb : b ∈ blocks.modify 0 fun b => { b with insts := pre.toArray ++ b.insts })
    (hi : i ∈ b.insts) : i ∈ pre ∨ ∃ (k : Nat) (b₀ : Block), blocks[k]? = some b₀ ∧ i ∈ b₀.insts := by
  obtain ⟨k, hk⟩ := Array.mem_iff_getElem?.1 hb
  rw [Array.getElem?_modify] at hk
  split at hk
  · obtain ⟨b₀, hb₀, rfl⟩ := Option.map_eq_some_iff.1 hk
    rcases Array.mem_append.1 hi with hi | hi
    · exact .inl (by simpa using hi)
    · exact .inr ⟨k, b₀, hb₀, hi⟩
  · exact .inr ⟨k, b, hk, hi⟩

/-- The state a compilation starts from keeps the call discipline. -/
theorem CallsDeclared.start (g : Globals) (n : Nat) (d : List (String × List Mty × Option Mty)) :
    CallsDeclared g { blocks := #[], nextReg := n, scope := { globals := g }, declared := d } := by
  refine ⟨rfl, ?_, ?_, ?_⟩
  · intro k b hb
    simp at hb
  · simp
  · simp

theorem compileFunction_callees {g : Globals} {f : FunctionDef} {sig : Signature} {symbol : String}
    {t t' : SessionStats} {c : Compiled}
    (h : (compileFunction g f sig symbol).run t = (.ok c, t')) :
    ∀ j ∈ c.callees, ∃ n fr, g.find? n = some (.function fr) ∧ fr.builtin = false ∧ fr.id = j ∧
      ∀ d sig' args, Inst.call d fr.symbol sig' args ∈ c.code.insts →
        machineSignature sig' = machineSignature fr.sig := by
  obtain ⟨st, t₁, hrun, rfl⟩ := compileFunction_ok h
  have hst : CallsDeclared g st :=
    (triple_iff_run _ _ _).1 (genFunction_calls f sig) _ t () st t₁ (CallsDeclared.start _ _ _) hrun
  intro j hj
  have hj' : j ∈ st.callees := by simpa using hj
  obtain ⟨n, fr, hfr, hbuiltin, hid, hl⟩ := hst.callees_bound j hj'
  refine ⟨n, fr, hfr, hbuiltin, hid, fun d sig' args hi => ?_⟩
  simp only [Code.insts, List.mem_flatMap, Array.mem_toList_iff] at hi
  obtain ⟨b, hb, hi⟩ := hi
  have hmatch : CallMatches st.declared (.call d fr.symbol sig' args) := by
    rcases mem_assembled hb hi with hp | ⟨k, b₀, hb₀, hi₀⟩
    · exact hst.prefix_calls _ hp
    · exact hst.block_calls k b₀ hb₀ _ hi₀
  have := hmatch d fr.symbol sig' args rfl
  rw [hl] at this
  exact (Option.some.inj this).symm

end Stmt

end TypedJit.Codegen

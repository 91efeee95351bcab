import TypedJit.Proofs.Codegen.Straight

/-!
Calls in generated code go where they were declared.
-/

namespace TypedJit.Codegen

open Std.Do Machine

set_option mvcgen.warning false

/-- A call instruction names a symbol declared with its machine signature. -/
def CallMatches (declared : List (String × List Mty × Option Mty)) (i : Inst) : Prop :=
  ∀ d sym sig args, i = .call d sym sig args → declared.lookup sym = some (machineSignature sig)

/-- The call discipline of a generator state over the global snapshot `g`. -/
structure CallsDeclared (g : Globals) (s : GenState) : Prop where
  globals_eq : s.scope.globals = g
  block_calls : ∀ (k : Nat) (b : Block), s.blocks[k]? = some b → ∀ i ∈ b.insts,
    CallMatches s.declared i
  prefix_calls : ∀ i ∈ s.entryPrefix, CallMatches s.declared i
  callees_bound : ∀ j ∈ s.callees, ∃ n f, g.find? n = some (.function f) ∧ f.builtin = false ∧
    f.id = j ∧ s.declared.lookup f.symbol = some (machineSignature f.sig)

theorem Scope.declare_globals {H : Type} {sc sc' : Scope H} {n : String} {t : Ty} {h : H}
    {sp : Span} (hd : sc.declare n t h sp = .ok sc') : sc'.globals = sc.globals := by
  unfold Scope.declare Scope.ensureUndeclared at hd
  split at hd <;> simp_all [bind, Except.bind, pure, Except.pure]
  rw [← hd]

/-- An instruction in a block after `i` is appended to block `c` was there before, or is `i`. -/
theorem mem_of_modify_push {blocks : Array Block} {c k : Nat} {i x : Inst} {b : Block}
    (hb : (blocks.modify c fun b => { b with insts := b.insts.push i })[k]? = some b)
    (hx : x ∈ b.insts) : x = i ∨ ∃ b₀, blocks[k]? = some b₀ ∧ x ∈ b₀.insts := by
  rw [Array.getElem?_modify] at hb
  split at hb
  · obtain ⟨b₀, hb₀, rfl⟩ := Option.map_eq_some_iff.1 hb
    rcases Array.mem_push.1 hx with hx | hx
    · exact .inr ⟨b₀, hb₀, hx⟩
    · exact .inl hx
  · exact .inr ⟨b, hb, hx⟩

/-- A block appended by `appendBlock` starts empty. -/
theorem mem_of_push_label {blocks : Array Block} {l : String} {k : Nat} {x : Inst} {b : Block}
    (hb : (blocks.push { label := l })[k]? = some b) (hx : x ∈ b.insts) :
    ∃ b₀, blocks[k]? = some b₀ ∧ x ∈ b₀.insts := by
  rw [Array.getElem?_push] at hb
  split at hb
  · cases hb
    simp at hx
  · exact ⟨b, hb, hx⟩

/-- Appending an instruction that is not a call keeps the call discipline. -/
theorem CallsDeclared.emitted {g : Globals} {s : GenState} {i : Inst} (h : CallsDeclared g s)
    (hi : CallFree i) : CallsDeclared g (s.emitted i) := by
  refine ⟨h.1, ?_, h.3, h.4⟩
  intro k b hb x hx
  rcases mem_of_modify_push hb hx with rfl | ⟨b₀, hb₀, hx₀⟩
  · intro d sym sig args heq
    exact absurd heq (hi d sym sig args)
  · exact h.2 k b₀ hb₀ x hx₀

/-- The call discipline over `g`, kept by the straight-line steps. -/
def discipline (g : Globals) : Straight where
  holds := CallsDeclared g
  fresh _ h := ⟨h.1, h.2, h.3, h.4⟩
  emit _ _ h hi := h.emitted hi.1
  alloca _ _ _ h := by
    refine ⟨h.1, h.2, ?_, h.4⟩
    intro i hi
    simp only [List.cons_append, List.nil_append, List.mem_cons] at hi
    rcases hi with rfl | rfl | hi
    · simp [CallMatches]
    · simp [CallMatches]
    · exact h.3 i hi

variable {g : Globals}

@[local spec]
theorem emit_calls (i : Inst) (hi : CallFree i) : Keeps (discipline g).holds (emit i) := by
  mvcgen [emit]
  exact CallsDeclared.emitted ‹_› hi

@[local spec]
theorem appendBlock_calls (l : String) : Keeps (discipline g).holds (appendBlock l) := by
  mvcgen [appendBlock, Gen.record]
  rename_i h _
  refine ⟨h.1, fun k b hb x hx => ?_, h.3, h.4⟩
  obtain ⟨b₀, hb₀, hx₀⟩ := mem_of_push_label hb hx
  exact h.2 k b₀ hb₀ x hx₀

@[local spec]
theorem positionAt_calls (b : Nat) : Keeps (discipline g).holds (positionAt b) := by
  mvcgen [positionAt]
  rename_i h _
  exact ⟨h.1, h.2, h.3, h.4⟩

theorem Scope.resolve_global {H : Type} {sc : Scope H} {n : String} {sp : Span} {sym : GlobalSymbol}
    (h : sc.resolve n sp = .ok (.global sym)) : sc.globals.find? n = some sym := by
  unfold Scope.resolve at h
  split at h
  · cases h
  · split at h <;> simp_all

/-- Appending a declaration keeps the ones already made. -/
theorem lookup_append_of_some {l : List (String × List Mty × Option Mty)} {k : String}
    {v : List Mty × Option Mty} (l' : List (String × List Mty × Option Mty))
    (h : l.lookup k = some v) : (l ++ l').lookup k = some v := by
  simp [List.lookup_append, h]

theorem CallMatches.append {d : List (String × List Mty × Option Mty)} {i : Inst}
    (h : CallMatches d i) (d' : List (String × List Mty × Option Mty)) : CallMatches (d ++ d') i :=
  fun a sym sig args hi => lookup_append_of_some d' (h a sym sig args hi)

/-- Declaring a symbol not yet declared keeps the call discipline. -/
theorem CallsDeclared.declare {g : Globals} {s s' : GenState} (h : CallsDeclared g s)
    (d' : List (String × List Mty × Option Mty)) (hb : s'.blocks = s.blocks)
    (hp : s'.entryPrefix = s.entryPrefix) (hc : s'.callees = s.callees) (hg : s'.scope = s.scope)
    (hd : s'.declared = s.declared ++ d') : CallsDeclared g s' := by
  refine ⟨hg ▸ h.1, ?_, ?_, ?_⟩
  · intro k b hb' i hi
    rw [hd]
    exact (h.2 k b (hb ▸ hb') i hi).append d'
  · intro i hi
    rw [hd]
    exact (h.3 i (hp ▸ hi)).append d'
  · intro j hj
    obtain ⟨n, f, hf, hbuiltin, hid, hl⟩ := h.4 j (hc ▸ hj)
    exact ⟨n, f, hf, hbuiltin, hid, hd ▸ lookup_append_of_some d' hl⟩

/-- A call to a declared function bound as `n`, appended to the current block, keeps the call
discipline, and so does recording the callee when it is a dialect function. -/
theorem CallsDeclared.call {g : Globals} {s s' : GenState} {n : String} {f : FunctionRef}
    {d : Option Nat} {args : List Operand} (h : CallsDeclared g s) (hf : g.find? n = some (.function f))
    (hl : s.declared.lookup f.symbol = some (machineSignature f.sig))
    (hb : s'.blocks = s.blocks.modify s.current fun b =>
      { b with insts := b.insts.push (.call d f.symbol f.sig args) })
    (hp : s'.entryPrefix = s.entryPrefix) (hg : s'.scope = s.scope) (hd : s'.declared = s.declared)
    (hc : s'.callees = s.callees ∨ (f.builtin = false ∧ s'.callees = s.callees ++ [f.id])) :
    CallsDeclared g s' := by
  refine ⟨hg ▸ h.1, ?_, ?_, ?_⟩
  · intro k b hb' i hi
    rw [hb] at hb'
    rcases mem_of_modify_push hb' hi with rfl | ⟨b₀, hb₀, hi₀⟩
    · intro a sym sig args' heq
      cases heq
      rw [hd]
      exact hl
    · exact hd ▸ h.2 k b₀ hb₀ i hi₀
  · intro i hi
    exact hd ▸ h.3 i (hp ▸ hi)
  · intro j hj
    rcases hc with hc | ⟨hbuiltin, hc⟩
    · obtain ⟨n', f', hf', hb', hid, hl'⟩ := h.4 j (hc ▸ hj)
      exact ⟨n', f', hf', hb', hid, hd ▸ hl'⟩
    · rw [hc, List.mem_append, List.mem_singleton] at hj
      rcases hj with hj | rfl
      · obtain ⟨n', f', hf', hb', hid, hl'⟩ := h.4 j hj
        exact ⟨n', f', hf', hb', hid, hd ▸ hl'⟩
      · exact ⟨n, f, hf, hbuiltin, rfl, hd ▸ hl⟩

@[local spec]
theorem declareCallee_calls (f : FunctionRef) (sp : Span) :
    ⦃fun s _ => ⌜(discipline g).holds s⌝⦄ declareCallee f sp
    ⦃⇓? _ s _ => ⌜CallsDeclared g s ∧ s.declared.lookup f.symbol = some (machineSignature f.sig)⌝⦄ := by
  mvcgen [declareCallee, Gen.fail]
  · rename_i h _ _ hl heq
    exact ⟨h, hl.trans (congrArg some (Classical.not_not.1 heq))⟩
  · rename_i h _ hl
    refine ⟨h.declare _ rfl rfl rfl rfl rfl, ?_⟩
    simp [List.lookup_append, hl]
    rfl


/-- Every expression generator at nesting budget `fuel` keeps `P`. -/
structure ExprKeeps (P : GenState → Prop) (fuel : Nat) : Prop where
  expr : ∀ e, Keeps P (genExpr fuel e)
  call : ∀ func args kws sp, Keeps P (genCall fuel func args kws sp)
  args : ∀ as ps, Keeps P (genArgs fuel as ps)
  index : ∀ v i sp, Keeps P (genIndex fuel v i sp)
  slice : ∀ v lo hi sp, Keeps P (genSlice fuel v lo hi sp)

/-- With no budget left every expression generator fails at once. -/
theorem exprKeeps_zero (P : GenState → Prop) : ExprKeeps P 0 := by
  refine ⟨fun e => ?_, fun func args kws sp => ?_, fun as ps => ?_, fun v i sp => ?_,
    fun v lo hi sp => ?_⟩
  · mvcgen [genExpr, Gen.fail]
  · mvcgen [genCall, Gen.fail]
  · mvcgen [genArgs, Gen.fail]
  · mvcgen [genIndex, Gen.fail]
  · mvcgen [genSlice, Gen.fail]

variable {fuel : Nat}

theorem genExpr_calls (ih : ExprKeeps (discipline g).holds fuel) (e : Expr) :
    Keeps (discipline g).holds (genExpr (fuel + 1) e) := by
  have hexpr := ih.expr
  have hcall := ih.call
  have hindex := ih.index
  have hslice := ih.slice
  -- the short-circuit operator is split first: the generator cannot split its match itself
  cases e with
  | logic op l r sp =>
    cases op <;> mvcgen [genExpr, hexpr, currentBlock]
    all_goals simp [Plain, CallFree, Inst.isTerminator]
  | _ =>
    mvcgen [genExpr, hexpr, hcall, hindex, hslice, Gen.fail]

theorem genArgs_calls (ih : ExprKeeps (discipline g).holds fuel) (as : List Expr) (ps : List Ty) :
    Keeps (discipline g).holds (genArgs (fuel + 1) as ps) := by
  have hexpr := ih.expr
  have hargs := ih.args
  cases as <;> cases ps <;> mvcgen [genArgs, hexpr, hargs]

theorem genIndex_calls (ih : ExprKeeps (discipline g).holds fuel) (v i : Expr) (sp : Span) :
    Keeps (discipline g).holds (genIndex (fuel + 1) v i sp) := by
  have hexpr := ih.expr
  mvcgen [genIndex, hexpr, Gen.fail]

theorem genSlice_calls (ih : ExprKeeps (discipline g).holds fuel) (v : Expr) (lo hi : Option Expr)
    (sp : Span) : Keeps (discipline g).holds (genSlice (fuel + 1) v lo hi sp) := by
  have hexpr := ih.expr
  mvcgen [genSlice, hexpr, Gen.fail]

theorem CallsDeclared.resolve_function {s : GenState} {n : String} {sp : Span}
    {a : Resolved Nat} {sym : GlobalSymbol} {f : FunctionRef}
    (hr : s.scope.resolve n sp = .ok a) (ha : a = .global sym) (hs : sym = .function f)
    (h : CallsDeclared g s) : g.find? n = some (.function f) := by
  subst ha hs
  rw [← h.globals_eq]
  exact Scope.resolve_global hr

theorem genCall_calls (ih : ExprKeeps (discipline g).holds fuel) (func : Expr) (args : List Expr)
    (kws : List Keyword) (sp : Span) :
    Keeps (discipline g).holds (genCall (fuel + 1) func args kws sp) := by
  have hexpr := ih.expr
  have hargs := ih.args
  mvcgen [genCall, hexpr, hargs, fresh, emit, Gen.record, Gen.lift, Gen.fail]
  all_goals
    obtain ⟨h, hl⟩ := ‹CallsDeclared g _ ∧ _›
    refine h.call (CallsDeclared.resolve_function ‹_› ‹_› ‹_› ‹_›) hl rfl rfl rfl rfl ?_
  · exact .inr ⟨by simpa using ‹(!_) = true›, rfl⟩
  · exact .inl rfl
  · exact .inr ⟨by simpa using ‹(!_) = true›, rfl⟩
  · exact .inl rfl

theorem exprKeeps_calls (fuel : Nat) : ExprKeeps (discipline g).holds fuel := by
  induction fuel with
  | zero => exact exprKeeps_zero _
  | succ fuel ih =>
    exact ⟨genExpr_calls ih, genCall_calls ih, genArgs_calls ih, genIndex_calls ih,
      genSlice_calls ih⟩

theorem genTarget_calls (fuel : Nat) (target : Expr) :
    Keeps (discipline g).holds (genTarget fuel target) := by
  have hindex := (exprKeeps_calls (g := g) fuel).index
  mvcgen [genTarget, hindex, Gen.lift, Gen.fail]

end TypedJit.Codegen

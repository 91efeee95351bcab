import Mathlib.Order.BooleanAlgebra.Set
import TypedJit.Proofs.Codegen.Pending

/-!
Where generated code stops: the syntactic rule for a missing return.
-/

namespace TypedJit

mutual

/-- A statement after which control never goes on: a `return`, or an `if` with an `else` whose
branches both return. -/
def Stmt.returns : Stmt → Bool
  | .ret .. => true
  | .branch _ body orelse _ => !orelse.isEmpty && Stmt.blockReturns body && Stmt.blockReturns orelse
  | _ => false

/-- A statement list one of whose statements returns. -/
def Stmt.blockReturns : List Stmt → Bool
  | [] => false
  | s :: rest => s.returns || Stmt.blockReturns rest

end

@[simp] theorem Stmt.blockReturns_nil : Stmt.blockReturns [] = false := by
  simp [Stmt.blockReturns]

@[simp] theorem Stmt.blockReturns_cons (s : Stmt) (rest : List Stmt) :
    Stmt.blockReturns (s :: rest) = (s.returns || Stmt.blockReturns rest) := by
  simp [Stmt.blockReturns]

/-- Locating an error in its function keeps its kind. -/
@[simp]
theorem CompileError.kind_inFunction (e : CompileError) (f : FunctionDef) :
    (e.inFunction f).kind = e.kind := by
  unfold CompileError.inFunction
  split <;> rfl

namespace Codegen

open Std.Do Machine

set_option mvcgen.warning false

attribute [local spec] declareLocal_fills declareName_fills declareCallee_fills loopBounds_fills
  genVar_fills

variable {fuel : Nat} {Q : Set Nat}

/-- The rule of consequence for triples over `Gen` with state assertions only. -/
theorem Gen.triple_mono {α : Type} {x : Gen α} {P P' : GenState → Prop}
    {R R' : α → GenState → Prop} (h : ⦃fun s _ => ⌜P s⌝⦄ x ⦃⇓? a s _ => ⌜R a s⌝⦄)
    (hp : ∀ s, P' s → P s) (hr : ∀ a s, R a s → R' a s) :
    ⦃fun s _ => ⌜P' s⌝⦄ x ⦃⇓? a s _ => ⌜R' a s⌝⦄ := by
  rw [triple_iff_run] at h ⊢
  exact fun s t a s' t' hs hrun => hr a s' (h s t a s' t' (hp s hs) hrun)

/-- A generator that finds the current block ended exactly when `t` and leaves the block it
stops in ended exactly when `b`, with the blocks `Q` pending before and after. -/
abbrev Ends {α : Type} (Q : Set Nat) (t b : Bool) (x : Gen α) : Prop :=
  ⦃fun s _ => ⌜s.Pending = Q ∧ s.terminated = t ∧ s.Tidy⌝⦄ x
    ⦃⇓? _ s _ => ⌜s.Pending = Q ∧ s.terminated = b ∧ s.Tidy⌝⦄

/-- A generator that comes back to a block still being filled, with the same blocks pending. -/
abbrev Fills {α : Type} (Q : Set Nat) (x : Gen α) : Prop := Ends Q false false x

theorem Keeps.fills {α : Type} {x : Gen α} (h : Keeps (filling Q).holds x) : Fills Q x :=
  Gen.triple_mono h (fun _ h => ⟨h.1, h.2.2, h.2.1⟩) (fun _ _ h => ⟨h.1, h.2.2, h.2.1⟩)

theorem Fills.keeps {α : Type} {x : Gen α} (h : Fills Q x) : Keeps (filling Q).holds x :=
  Gen.triple_mono h (fun _ h => ⟨h.1, h.2.2, h.2.1⟩) (fun _ _ h => ⟨h.1, h.2.2, h.2.1⟩)

/-! ### Steps that create, end and enter blocks -/

/-- Appending to a block being filled ends it exactly when the instruction is a terminator. -/
@[local spec]
theorem emit_terminated (Q : Set Nat) (i : Inst) :
    ⦃fun s _ => ⌜s.Pending = Q ∧ s.terminated = false ∧ s.Tidy⌝⦄ emit i
    ⦃⇓? _ s _ => ⌜s.Pending = Q ∧ s.terminated = i.isTerminator ∧ s.Tidy⌝⦄ := by
  mvcgen [emit]
  obtain ⟨hp, ho, ht⟩ := ‹_ ∧ _›
  exact ⟨(GenState.pending_emitted i).trans hp, GenState.terminated_emitted ht i, ht.emitted ho i⟩

@[local spec]
theorem appendBlock_ends (Q : Set Nat) (l : String) :
    ⦃fun s _ => ⌜s.Pending = Q ∧ s.terminated = false ∧ s.Tidy⌝⦄ appendBlock l
    ⦃⇓? k s _ => ⌜s.Pending = Insert.insert k Q ∧ s.terminated = false ∧ s.Tidy ∧ k ∉ Q⌝⦄ :=
  Gen.triple_mono (appendBlock_pending Q l) (fun _ h => ⟨h.1, h.2.2, h.2.1⟩)
    (fun _ _ h => ⟨h.1.1, h.1.2.2, h.1.2.1, h.2⟩)

@[local spec]
theorem positionAt_ends (Q : Set Nat) (b : Nat) (hb : b ∈ Q) :
    ⦃fun s _ => ⌜s.Pending = Q ∧ s.terminated = true ∧ s.Tidy⌝⦄ positionAt b
    ⦃⇓? _ s _ => ⌜s.Pending = Q \ {b} ∧ s.terminated = false ∧ s.Tidy⌝⦄ :=
  Gen.triple_mono (positionAt_enters Q b hb) (fun _ h => ⟨h.1, h.2.2, h.2.1⟩)
    (fun _ _ h => ⟨h.1, h.2.2, h.2.1⟩)

/-- Reading whether the current block has ended changes nothing. -/
@[local spec]
theorem isTerminated_ends (Q : Set Nat) (t : Bool) :
    ⦃fun s _ => ⌜s.Pending = Q ∧ s.terminated = t ∧ s.Tidy⌝⦄ isTerminated
    ⦃⇓? r s _ => ⌜r = t ∧ s.Pending = Q ∧ s.terminated = t ∧ s.Tidy⌝⦄ := by
  mvcgen [isTerminated]
  rename_i s _ h
  obtain ⟨hq, rfl, ht⟩ := h
  refine ⟨?_, hq, rfl, ht⟩
  simp only [GenState.terminated]
  cases s.blocks[s.current]? with
  | none => rfl
  | some b => cases hb : b.insts.back? <;> simp [Block.ended, hb]

/-! ### Straight-line steps between block changes

The straight-line building blocks keep `filling Q` for every `Q`; stated as `Fills`, with the
pending blocks read off the state, they can stand between steps that create, end and enter
blocks. -/

theorem Fills.toBool (Q : Set Nat) (v : TValue) (sp : Span) : Fills Q (toBool v sp) :=
  (@toBool_keeps (filling Q) v sp).fills

theorem Fills.castValue (Q : Set Nat) (v : TValue) (t : Ty) (sp : Span) :
    Fills Q (castValue v t sp) :=
  (@castValue_keeps (filling Q) v t sp).fills

theorem Fills.allocaFor (Q : Set Nat) (ty : Ty) (n : String) (sp : Span) :
    Fills Q (allocaFor ty n sp) :=
  (@allocaFor_keeps (filling Q) ty n sp).fills

theorem Fills.store (Q : Set Nat) (v p : Operand) : Fills Q (store v p) :=
  (@store_keeps (filling Q) v p).fills

theorem Fills.load (Q : Set Nat) (t : Mty) (p : Operand) : Fills Q (load t p) :=
  (@load_keeps (filling Q) t p).fills

theorem Fills.icmp (Q : Set Nat) (p : IntPred) (l r : Operand) : Fills Q (icmp p l r) :=
  (@icmp_keeps (filling Q) p l r).fills

theorem Fills.binary (Q : Set Nat) (op : BinaryOp) (l r : Operand) : Fills Q (binary op l r) :=
  (@binary_keeps (filling Q) op l r).fills

theorem Fills.emitValue (Q : Set Nat) (mk : Nat → Inst) (hi : ∀ r, Plain (mk r)) :
    Fills Q (emitValue mk) :=
  (@emitValue_keeps (filling Q) mk hi).fills

theorem Fills.declareLocal (Q : Set Nat) (n : String) (ty : Ty) (ptr : Nat) (sp : Span) :
    Fills Q (declareLocal n ty ptr sp) :=
  (declareLocal_fills n ty ptr sp).fills

theorem Fills.loopBounds (Q : Set Nat) (iter : Expr) : Fills Q (loopBounds iter) :=
  (loopBounds_fills iter).fills

/-! ### Expressions -/

section Logic

attribute [local spec 2000] Fills.toBool Fills.emitValue

/-- A short-circuit operator fills two blocks of its own and comes back to the second. -/
theorem genLogic_fills (hexpr : ∀ Q e, Fills Q (genExpr fuel e)) (op : BoolOp) (l r : Expr)
    (sp : Span) : Fills Q (genExpr (fuel + 1) (.logic op l r sp)) := by
  cases op <;> mvcgen [genExpr, hexpr, currentBlock]
  -- each step finds the state the step before left; the two new blocks are pending until entered
  all_goals
    casesm* _ ∧ _
    try simp [*, Inst.isTerminator, Plain, CallFree]
  -- what is left needs the new blocks to be fresh
  all_goals simp_all [Set.insert_sdiff_of_mem, Set.insert_sdiff_of_notMem,
    Set.sdiff_singleton_eq_self]

end Logic

theorem genExpr_fills (ih : ∀ Q, ExprKeeps (filling Q).holds fuel) (e : Expr) :
    Keeps (filling Q).holds (genExpr (fuel + 1) e) := by
  cases e with
  | logic op l r sp => exact (genLogic_fills (fun Q e => ((ih Q).expr e).fills) op l r sp).keeps
  | _ =>
    have hexpr := (ih Q).expr
    have hcall := (ih Q).call
    have hindex := (ih Q).index
    have hslice := (ih Q).slice
    mvcgen [genExpr, hexpr, hcall, hindex, hslice, Gen.fail]

theorem genArgs_fills (ih : ∀ Q, ExprKeeps (filling Q).holds fuel) (as : List Expr)
    (ps : List Ty) : Keeps (filling Q).holds (genArgs (fuel + 1) as ps) := by
  have hexpr := (ih Q).expr
  have hargs := (ih Q).args
  cases as <;> cases ps <;> mvcgen [genArgs, hexpr, hargs]

theorem genIndex_fills (ih : ∀ Q, ExprKeeps (filling Q).holds fuel) (v i : Expr) (sp : Span) :
    Keeps (filling Q).holds (genIndex (fuel + 1) v i sp) := by
  have hexpr := (ih Q).expr
  mvcgen [genIndex, hexpr, Gen.fail]

theorem genSlice_fills (ih : ∀ Q, ExprKeeps (filling Q).holds fuel) (v : Expr)
    (lo hi : Option Expr) (sp : Span) :
    Keeps (filling Q).holds (genSlice (fuel + 1) v lo hi sp) := by
  have hexpr := (ih Q).expr
  mvcgen [genSlice, hexpr, Gen.fail]

theorem genCall_fills (ih : ∀ Q, ExprKeeps (filling Q).holds fuel) (func : Expr)
    (args : List Expr) (kws : List Keyword) (sp : Span) :
    Keeps (filling Q).holds (genCall (fuel + 1) func args kws sp) := by
  have hexpr := (ih Q).expr
  have hargs := (ih Q).args
  mvcgen [genCall, hexpr, hargs, emit, Gen.record, Gen.lift, Gen.fail]
  -- the call is appended to the current block, and a dialect callee is recorded
  all_goals exact filling_frame (GenState.filling_emitted ‹(filling Q).holds _› (by rfl)) rfl rfl rfl

theorem exprKeeps_fills (fuel : Nat) (Q : Set Nat) : ExprKeeps (filling Q).holds fuel := by
  induction fuel generalizing Q with
  | zero => exact exprKeeps_zero _
  | succ fuel ih =>
    exact ⟨genExpr_fills ih, genCall_fills ih, genArgs_fills ih, genIndex_fills ih,
      genSlice_fills ih⟩

theorem genTarget_fills (fuel : Nat) (target : Expr) :
    Keeps (filling Q).holds (genTarget fuel target) := by
  have hindex := (exprKeeps_fills fuel Q).index
  mvcgen [genTarget, hindex, Gen.lift, Gen.fail]

/-! ### Straight-line statements -/

variable {ret : Ty}

theorem genAssign_fills (t v : Expr) :
    Keeps (filling Q).holds (genAssign ret (fuel + 1) t v) := by
  have hexpr := (exprKeeps_fills fuel Q).expr
  have htarget := genTarget_fills (Q := Q) fuel
  mvcgen [genAssign, hexpr, htarget, Gen.fail]

theorem genAugAssign_fills (t : Expr) (op : BinOp) (v : Expr) (sp : Span) :
    Keeps (filling Q).holds (genStmt ret (fuel + 1) (.augAssign t op v sp)) := by
  have hexpr := (exprKeeps_fills fuel Q).expr
  have htarget := genTarget_fills (Q := Q) fuel
  mvcgen [genStmt, hexpr, htarget]

theorem genEval_fills (e : Expr) (sp : Span) :
    Keeps (filling Q).holds (genStmt ret (fuel + 1) (.eval e sp)) := by
  have hexpr := (exprKeeps_fills fuel Q).expr
  have hdiscard : ∀ e, Keeps (filling Q).holds (discard (genExpr fuel e)) :=
    fun e => (hexpr e).discard
  mvcgen [genStmt, hexpr, hdiscard]

/-! ### Statements that end blocks -/

/-- The four blocks of a counted loop once its counter holds the start value: the test, the
body, the increment and the exit. -/
def forBlocks (ret : Ty) (fuel : Nat) (kind : ScalarType) (counter : Nat) (stopOp : Operand)
    (body : List Stmt) : Gen Unit := do
  let condBb ← appendBlock "loopcond"
  let bodyBb ← appendBlock "loopbody"
  let incrBb ← appendBlock "loopincr"
  let exitBb ← appendBlock "loopexit"
  emit (.br condBb)
  positionAt condBb
  let current ← load (.scalar kind) (.reg counter)
  let more ← icmp .slt current stopOp
  emit (.condBr more bodyBb exitBb)
  positionAt bodyBb
  genBlock ret fuel body
  if !(← isTerminated) then emit (.br incrBb)
  positionAt incrBb
  let current ← load (.scalar kind) (.reg counter)
  let next ← binary .add current (.const (.scalar (Scalar.ofInt kind 1)))
  store next (.reg counter)
  emit (.br condBb)
  positionAt exitBb

theorem genFor_eq (target : String) (ts : Span) (iter : Expr) (body : List Stmt) :
    genFor ret (fuel + 1) target ts iter body = (do
      let (start?, stop) ← loopBounds iter
      Gen.lift ((← get).scope.ensureUndeclared target ts)
      let start ← match start? with
        | some e => genExpr fuel e
        | none => pure (.const (.i32 0))
      let stopValue ← genExpr fuel stop
      let bad : Gen ScalarType := Gen.fail .invalidUseOfConstruct
        s!"range() bounds must be integers, got {start.ty} and {stopValue.ty}" iter.span
      let kind ← match coerce start.ty stopValue.ty with
        | some (.scalar s) => if s.isInteger then pure s else bad
        | _ => bad
      let counterTy : Ty := .scalar kind
      let counter ← allocaFor counterTy target ts
      declareLocal target counterTy counter ts
      let initial ← castValue start counterTy iter.span
      store initial (.reg counter)
      let stopOp ← castValue stopValue counterTy stop.span
      forBlocks ret fuel kind counter stopOp body) := rfl

section Blocks

attribute [local spec 2000] Fills.toBool Fills.castValue Fills.allocaFor Fills.store Fills.load
  Fills.icmp Fills.binary Fills.declareLocal Fills.loopBounds

/-- What the statement generators at budget `fuel` do to the blocks: straight-line statements
and loops come back to a block still being filled, an `if` and a statement list leave it ended
exactly when they return, and a `return` ends it. -/
structure StmtEnds (ret : Ty) (fuel : Nat) : Prop where
  block : ∀ Q t ss, Ends Q t (t || Stmt.blockReturns ss) (genBlock ret fuel ss)
  stmt : ∀ Q st, Ends Q false st.returns (genStmt ret fuel st)
  assign : ∀ Q t v, Keeps (filling Q).holds (genAssign ret fuel t v)
  cond : ∀ Q c b o, Ends Q false (!o.isEmpty && Stmt.blockReturns b && Stmt.blockReturns o)
    (genIf ret fuel c b o)
  loop : ∀ Q t ts it b, Fills Q (genFor ret fuel t ts it b)
  returns : ∀ Q v sp, Ends Q false true (genReturn ret fuel v sp)

theorem stmtEnds_zero (ret : Ty) : StmtEnds ret 0 := by
  refine ⟨fun Q t ss => ?_, fun Q st => ?_, fun Q t v => ?_, fun Q c b o => ?_,
    fun Q t ts it b => ?_, fun Q v sp => ?_⟩
  · mvcgen [genBlock, Gen.fail]
  · mvcgen [genStmt, Gen.fail]
  · mvcgen [genAssign, Gen.fail]
  · mvcgen [genIf, Gen.fail]
  · mvcgen [genFor, Gen.fail]
  · mvcgen [genReturn, Gen.fail]

theorem genBlock_ends (ih : StmtEnds ret fuel) (ss : List Stmt) (t : Bool) :
    Ends Q t (t || Stmt.blockReturns ss) (genBlock ret (fuel + 1) ss) := by
  have hstmt := ih.stmt
  have hblock := ih.block
  cases ss <;> mvcgen [genBlock, hstmt, hblock]
  all_goals
    casesm* _ ∧ _
    simp_all

theorem genReturn_ends (v : Option Expr) (sp : Span) :
    Ends Q false true (genReturn ret (fuel + 1) v sp) := by
  have hexpr : ∀ Q e, Fills Q (genExpr fuel e) := fun Q e => ((exprKeeps_fills fuel Q).expr e).fills
  mvcgen [genReturn, hexpr, Gen.fail]
  all_goals
    intros
    casesm* _ ∧ _
    simp [*, Inst.isTerminator]

theorem genIf_ends (ih : StmtEnds ret fuel) (c : Expr) (b o : List Stmt) :
    Ends Q false (!o.isEmpty && Stmt.blockReturns b && Stmt.blockReturns o)
      (genIf ret (fuel + 1) c b o) := by
  have hexpr : ∀ Q e, Fills Q (genExpr fuel e) := fun Q e => ((exprKeeps_fills fuel Q).expr e).fills
  have hblock := ih.block
  mvcgen [genIf, hexpr, hblock]
  all_goals
    intros
    casesm* _ ∧ _
    try simp +zetaDelta [*, Inst.isTerminator]
  all_goals simp_all +zetaDelta [Set.insert_sdiff_of_mem, Set.insert_sdiff_of_notMem,
    Set.sdiff_singleton_eq_self]

theorem forBlocks_fills (ih : StmtEnds ret fuel) (kind : ScalarType) (counter : Nat)
    (stopOp : Operand) (b : List Stmt) : Fills Q (forBlocks ret fuel kind counter stopOp b) := by
  have hblock := ih.block
  mvcgen [forBlocks, hblock]
  all_goals
    intros
    casesm* _ ∧ _
    try simp +zetaDelta [*, Inst.isTerminator]
  all_goals simp_all +zetaDelta [Set.insert_sdiff_of_mem, Set.insert_sdiff_of_notMem,
    Set.sdiff_singleton_eq_self]

/-- A `while` loop comes back to a block still being filled, whatever its body does: the exit
block is entered from the test, never from the body. -/
theorem genWhile_fills (ih : StmtEnds ret fuel) (c : Expr) (b : List Stmt) (sp : Span) :
    Fills Q (genStmt ret (fuel + 1) (.whileLoop c b sp)) := by
  have hexpr : ∀ Q e, Fills Q (genExpr fuel e) := fun Q e => ((exprKeeps_fills fuel Q).expr e).fills
  have hblock := ih.block
  mvcgen [genStmt, hexpr, hblock]
  all_goals
    intros
    casesm* _ ∧ _
    try simp +zetaDelta [*, Inst.isTerminator]
  all_goals simp_all +zetaDelta [Set.insert_sdiff_of_mem, Set.insert_sdiff_of_notMem,
    Set.sdiff_singleton_eq_self]

end Blocks

/-- The counter set-up of a counted loop runs straight in the block being filled, and
`forBlocks` comes back to a block still being filled. -/
theorem genFor_fills (ih : StmtEnds ret fuel) (t : String) (ts : Span) (it : Expr)
    (b : List Stmt) : Fills Q (genFor ret (fuel + 1) t ts it b) := by
  have hexpr := (exprKeeps_fills fuel Q).expr
  have hloop : ∀ kind counter stopOp,
      Keeps (filling Q).holds (forBlocks ret fuel kind counter stopOp b) :=
    fun kind counter stopOp => (forBlocks_fills ih kind counter stopOp b).keeps
  have hsetup : Keeps (filling Q).holds (genFor ret (fuel + 1) t ts it b) := by
    rw [genFor_eq]
    mvcgen [hexpr, hloop, Gen.lift, Gen.fail]
  exact hsetup.fills

/-- One statement: the step of the induction over the fuel, each kind of statement by the lemma
about its generator. -/
theorem genStmt_ends (ih : StmtEnds ret fuel) (st : Stmt) :
    Ends Q false st.returns (genStmt ret (fuel + 1) st) := by
  cases st with
  | assign t v _ => exact (ih.assign Q t v).fills
  | augAssign t op v sp => exact (genAugAssign_fills t op v sp).fills
  | eval e sp => exact (genEval_fills e sp).fills
  | branch c b o _ => exact ih.cond Q c b o
  | forLoop t ts it b _ => exact ih.loop Q t ts it b
  | whileLoop c b sp => exact genWhile_fills ih c b sp
  | ret v sp => exact ih.returns Q v sp
  | pass _ => mvcgen [genStmt]
  | unsupported _ _ => mvcgen [genStmt, Gen.fail]

/-- Every budget: the statement generators end blocks exactly as the syntax says. -/
theorem stmtEnds (ret : Ty) : ∀ fuel, StmtEnds ret fuel
  | 0 => stmtEnds_zero ret
  | fuel + 1 =>
    have ih := stmtEnds ret fuel
    { block := fun _ t ss => genBlock_ends ih ss t
      stmt := fun _ st => genStmt_ends ih st
      assign := fun _ t v => genAssign_fills t v
      cond := fun _ c b o => genIf_ends ih c b o
      loop := fun _ t ts it b => genFor_fills ih t ts it b
      returns := fun _ v sp => genReturn_ends v sp }

/-! ### Runs -/

/-- `isTerminated` reads whether the current block has ended, and changes nothing. -/
theorem isTerminated_run (s : GenState) : isTerminated.run s = pure (s.terminated, s) := by
  simp only [isTerminated, GenState.terminated, StateT.run_bind, StateT.run_get, pure_bind,
    StateT.run_pure]
  cases s.blocks[s.current]? with
  | none => rfl
  | some b => cases hb : b.insts.back? <;> simp [Block.ended, hb]

/-- A statement list stops at an ended block; otherwise it runs its first statement and goes on
with the rest. -/
theorem genBlock_cons_run (ret : Ty) (k : Nat) (p : Stmt) (xs : List Stmt) (s : GenState) :
    (genBlock ret (k + 1) (p :: xs)).run s =
      if s.terminated then pure ((), s)
      else (Gen.mapError (·.atIfUnknown p.span) (genStmt ret k p)).run s >>= fun r =>
        (genBlock ret k xs).run r.2 := by
  simp only [genBlock, StateT.run_bind, isTerminated_run, pure_bind]
  cases s.terminated <;> simp

/-- Two continuations that agree after every successful run of `x` give the same run. -/
theorem run_bind_congr {α β : Type} {x : ExceptT CompileError (StateM SessionStats) α}
    {f g : α → ExceptT CompileError (StateM SessionStats) β}
    (h : ∀ t a t', x.run.run t = (.ok a, t') → (f a).run.run t' = (g a).run.run t') :
    x >>= f = x >>= g := by
  apply ExceptT.ext
  funext t
  simp only [ExceptT.run_bind]
  show ((x.run >>= _) t) = ((x.run >>= _) t)
  simp only [bind, StateT.bind]
  rcases hx : x.run t with ⟨r, t'⟩
  rcases r with e | a
  · rfl
  · exact h t a t' hx

/-- After a successful run of `x`, a bind goes on with its continuation. -/
theorem run_bind_ok {α β : Type} {x : ExceptT CompileError (StateM SessionStats) α}
    {f : α → ExceptT CompileError (StateM SessionStats) β} {t t' : SessionStats} {a : α}
    (h : x.run.run t = (.ok a, t')) : (x >>= f).run.run t = (f a).run.run t' := by
  simp only [ExceptT.run_bind]
  show ((x.run >>= _) t) = _
  simp only [bind, StateT.bind]
  change x.run t = _ at h
  rw [h]
  rfl

/-! ### Dead statements -/

/-- Once the current block has ended, a statement list does nothing: whatever it holds, it runs
as the empty list. -/
theorem genBlock_of_terminated (ret : Ty) (k : Nat) (xs : List Stmt) {s : GenState}
    (h : s.terminated = true) : (genBlock ret k xs).run s = (genBlock ret k []).run s := by
  cases k with
  | zero => rfl
  | succ k =>
    cases xs with
    | nil => rfl
    | cons p xs =>
      rw [genBlock_cons_run, if_pos h]
      rfl

/-- A statement, with its errors located, comes back with its block ended exactly when it
returns. -/
theorem genStmt_located_ends (ret : Ty) (k : Nat) (Q : Set Nat) (p : Stmt) :
    Ends Q false p.returns (Gen.mapError (·.atIfUnknown p.span) (genStmt ret k p)) := by
  have hstmt := (stmtEnds ret k).stmt Q p
  mvcgen [hstmt]

/-- The statements after a returning prefix are never generated: the list runs as its prefix. -/
theorem genBlock_append_of_returns (ret : Ty) (fuel : Nat) (pre post : List Stmt) (s : GenState)
    (hpre : Stmt.blockReturns pre = true) (hs : s.Tidy) :
    (genBlock ret fuel (pre ++ post)).run s = (genBlock ret fuel pre).run s := by
  induction pre generalizing fuel s with
  | nil => simp at hpre
  | cons p pre ih =>
    cases fuel with
    | zero => rfl
    | succ k =>
      rw [List.cons_append, genBlock_cons_run, genBlock_cons_run]
      split
      · rfl
      · rename_i hopen
        refine run_bind_congr fun t r t' hrun => ?_
        obtain ⟨⟨⟩, s₁⟩ := r
        obtain ⟨-, hended, htidy⟩ := (triple_iff_run _ _ _).1 (genStmt_located_ends ret k _ p)
          s t () s₁ t' ⟨rfl, by simpa using hopen, hs⟩ hrun
        dsimp only
        by_cases hp : p.returns = true
        · -- the first statement returns: the rest of both lists meets an ended block
          rw [genBlock_of_terminated ret k _ (hended.trans hp),
            genBlock_of_terminated ret k pre (hended.trans hp)]
        · have hrest : Stmt.blockReturns pre = true := by simpa [hp] using hpre
          rw [ih k s₁ hrest htidy]

/-- A statement list run from a tidy state leaves it tidy, with its last block ended exactly
when the block had already ended or the list returns. -/
theorem genBlock_terminated {ret : Ty} {fuel : Nat} {ss : List Stmt} {s s' : GenState}
    {t t' : SessionStats} (hs : s.Tidy)
    (hrun : ((genBlock ret fuel ss).run s).run.run t = (.ok ((), s'), t')) :
    s'.terminated = (s.terminated || Stmt.blockReturns ss) ∧ s'.Tidy := by
  obtain ⟨-, hended, htidy⟩ := (triple_iff_run _ _ _).1
    ((stmtEnds ret fuel).block s.Pending s.terminated ss) s t () s' t' ⟨rfl, rfl, hs⟩ hrun
  exact ⟨hended, htidy⟩

/-! ### Functions -/

/-- `genFunction` before its last step: the parameters into their slots, then the body. -/
def genBody (f : FunctionDef) (sig : Signature) : Gen Unit := do
  if f.params.length ≠ sig.params.length then
    Gen.fail .functionDeclaration
      s!"`{f.name}` has {f.params.length} parameters but {sig.params.length} argument types were declared"
      f.span
  Gen.lift (sig.validate f.name f.span)
  let entry ← appendBlock "entry"
  positionAt entry
  for ((p, ty), i) in (f.params.zip sig.params).zipIdx do
    Gen.lift ((← get).scope.ensureUndeclared p.name p.span)
    let slot ← allocaFor ty p.name p.span
    store (.reg i) (.reg slot)
    declareLocal p.name ty slot p.span
  genBlock sig.ret nestingBudget f.body

/-- The error of a function that returns a value but whose end can be reached. -/
def missingReturnError (f : FunctionDef) (sig : Signature) : CompileError :=
  ⟨.missingReturn, s!"`{f.name}` returns {sig.ret} but control can reach the end of the function",
    (f.body.getLast?.map Stmt.span).getD f.span, none⟩

/-- The last step of `genFunction`: a block still open after the body gets `ret void`, or the
function is rejected. -/
def genClose (f : FunctionDef) (sig : Signature) : Gen Unit := do
  if !(← isTerminated) then
    if sig.ret.isVoid then emit (.ret none)
    else throw (missingReturnError f sig)

theorem genFunction_eq (f : FunctionDef) (sig : Signature) :
    genFunction f sig = (do genBody f sig; genClose f sig) := by
  simp only [genFunction, genBody, genClose]
  split_ifs <;> simp only [bind_assoc] <;> rfl

theorem genClose_run (f : FunctionDef) (sig : Signature) (s : GenState) :
    (genClose f sig).run s =
      if s.terminated then pure ((), s)
      else if sig.ret.isVoid then pure ((), s.emitted (.ret none))
      else throw (missingReturnError f sig) := by
  simp only [genClose, StateT.run_bind, isTerminated_run, pure_bind]
  cases s.terminated <;> cases sig.ret.isVoid <;> rfl

/-- The state `compileFunction` starts generating in. -/
def startState (g : Globals) (sig : Signature) (symbol : String) : GenState :=
  { blocks := #[], nextReg := sig.params.length, scope := { globals := g },
    declared := [(symbol, machineSignature sig)] }

/-- A state whose only block is the current one, empty, fills it with nothing pending. -/
theorem filling_entry {s : GenState} (l : String) (hb : s.blocks = #[{ label := l }])
    (hc : s.current = 0) (hp : s.entryPrefix = []) : (filling ∅).holds s := by
  refine ⟨?_, ⟨?_, by simp [hp], by simp [hb, hc]⟩, by simp [GenState.terminated, hb, hc]⟩
  · ext k
    cases k with
    | zero => simp [GenState.Pending, hc]
    | succ k => simp [GenState.Pending, hb]
  · intro k b hk
    cases k with
    | zero =>
      simp only [hb, List.getElem?_toArray, List.getElem?_cons_zero, Option.some.injEq] at hk
      simp [← hk]
    | succ k => simp [hb] at hk

/-- From the empty start, the parameters and the body leave a tidy state whose last block has
ended exactly when the body returns, and every other block has ended. -/
theorem genBody_ends (f : FunctionDef) (sig : Signature) :
    ⦃fun s _ => ⌜s.blocks = #[] ∧ s.entryPrefix = [] ∧ s.current = 0⌝⦄ genBody f sig
    ⦃⇓? _ s _ => ⌜s.terminated = Stmt.blockReturns f.body ∧ s.Tidy ∧ s.Pending = ∅⌝⦄ := by
  have hblock := (stmtEnds sig.ret nestingBudget).block ∅ false f.body
  mvcgen [genBody, hblock, appendBlock, positionAt, Gen.record, Gen.lift, Gen.fail] invariants
  · ⇓? _ s _ => ⌜(filling ∅).holds s⌝
  -- the loop steps' preconditions are the invariant itself
  all_goals try assumption
  · -- `entry` is the only block, and the current one
    obtain ⟨hb, hp, -⟩ := ‹_ ∧ _›
    refine filling_entry ?l ?blocks (by simp +zetaDelta [hb]) (by simp +zetaDelta [hp])
    case blocks =>
      simp +zetaDelta [hb]
      rfl
  · obtain ⟨hq, ht, he⟩ := ‹(filling ∅).holds _›
    exact ⟨hq, he, ht⟩
  · intro hpending hended htidy
    exact ⟨by simpa using hended, htidy, hpending⟩

/-- After a body that succeeds, the function's code is complete when the body returns; otherwise
a `Void` function gets `ret void` and any other is rejected for a missing return. -/
theorem genFunction_run_of_body {f : FunctionDef} {sig : Signature} {s₀ s' : GenState}
    {t t₁ : SessionStats} (h₀ : s₀.blocks = #[] ∧ s₀.entryPrefix = [] ∧ s₀.current = 0)
    (hbody : ((genBody f sig).run s₀).run.run t = (.ok ((), s'), t₁)) :
    s'.terminated = Stmt.blockReturns f.body ∧
    ((genFunction f sig).run s₀).run.run t =
      if Stmt.blockReturns f.body then (.ok ((), s'), t₁)
      else if sig.ret.isVoid then (.ok ((), s'.emitted (.ret none)), t₁)
      else (.error (missingReturnError f sig), t₁) := by
  have hended := ((triple_iff_run _ _ _).1 (genBody_ends f sig) s₀ t () s' t₁ h₀ hbody).1
  refine ⟨hended, ?_⟩
  rw [genFunction_eq, StateT.run_bind, run_bind_ok hbody]
  dsimp only
  rw [genClose_run, hended]
  cases Stmt.blockReturns f.body <;> cases sig.ret.isVoid <;> rfl

theorem compileFunction_of_error {g : Globals} {f : FunctionDef} {sig : Signature}
    {symbol : String} {t t₁ : SessionStats} {e : CompileError}
    (h : ((genFunction f sig).run (startState g sig symbol)).run.run t = (.error e, t₁)) :
    ((compileFunction g f sig symbol).run t).1 = .error (e.inFunction f) := by
  unfold compileFunction
  simp only [startState] at h
  simp only [StateT.run_bind, h]
  rfl

theorem compileFunction_of_ok {g : Globals} {f : FunctionDef} {sig : Signature}
    {symbol : String} {t t₁ : SessionStats} {st : GenState} {e : CompileError}
    (h : ((genFunction f sig).run (startState g sig symbol)).run.run t = (.ok ((), st), t₁))
    (he : ((compileFunction g f sig symbol).run t).1 = .error e) : e.kind = .internal := by
  change (Id.run ((compileFunction g f sig symbol).run t)).1 = _ at he
  unfold compileFunction at he
  simp only [startState] at h
  simp only [StateT.run_bind, Id.run_bind, h] at he
  split at he
  · rename_i heq
    simp [Id.run] at heq
  · split at he
    · -- the code is not well terminated: the backend's error
      simp at he
      rw [← he, CompileError.kind_inFunction]
      rfl
    · simp at he

/-- After a body that succeeds, compiling the function fails for a missing return exactly when
the function returns a value and its body does not return. -/
theorem compileFunction_missingReturn_iff {g : Globals} {f : FunctionDef} {sig : Signature}
    {symbol : String} {s' : GenState} {t t₁ : SessionStats}
    (hbody : ((genBody f sig).run (startState g sig symbol)).run.run t = (.ok ((), s'), t₁)) :
    (∃ e, ((compileFunction g f sig symbol).run t).1 = .error e ∧ e.kind = .missingReturn) ↔
      sig.ret.isVoid = false ∧ Stmt.blockReturns f.body = false := by
  have hrun := (genFunction_run_of_body ⟨rfl, rfl, rfl⟩ hbody).2
  -- code that is generated can only fail the backend's check, never for a missing return
  have hcode : ∀ st, ((genFunction f sig).run (startState g sig symbol)).run.run t =
      (.ok ((), st), t₁) →
      ¬∃ e, ((compileFunction g f sig symbol).run t).1 = .error e ∧ e.kind = .missingReturn :=
    fun st h ⟨e, he, hk⟩ => by simp [compileFunction_of_ok h he] at hk
  cases hr : Stmt.blockReturns f.body with
  | true =>
    simp only [hr, if_true] at hrun
    exact iff_of_false (hcode _ hrun) (by simp)
  | false =>
    cases hv : sig.ret.isVoid with
    | true =>
      simp only [hr, hv, if_true, Bool.false_eq_true, if_false] at hrun
      exact iff_of_false (hcode _ hrun) (by simp)
    | false =>
      simp only [hr, hv, Bool.false_eq_true, if_false] at hrun
      exact iff_of_true ⟨_, compileFunction_of_error hrun, by simp [missingReturnError]⟩ ⟨rfl, rfl⟩

/-- Whether generated code stops is decided by the syntax. After a body that succeeds, its last
block has ended exactly when the body returns; the function is then complete if it does, is
closed with `ret void` if it returns nothing, and is rejected for a missing return otherwise,
the one way compiling it fails for that reason. In every statement list, what follows a
returning prefix is never generated. -/
theorem missing_return_follows_syntax (g : Globals) (f : FunctionDef) (sig : Signature)
    (symbol : String) (t t₁ : SessionStats) (s' : GenState)
    (hbody : ((genBody f sig).run (startState g sig symbol)).run.run t = (.ok ((), s'), t₁)) :
    s'.terminated = Stmt.blockReturns f.body ∧
    ((genFunction f sig).run (startState g sig symbol)).run.run t =
      (if Stmt.blockReturns f.body then (.ok ((), s'), t₁)
       else if sig.ret.isVoid then (.ok ((), s'.emitted (.ret none)), t₁)
       else (.error (missingReturnError f sig), t₁)) ∧
    ((∃ e, ((compileFunction g f sig symbol).run t).1 = .error e ∧ e.kind = .missingReturn) ↔
      sig.ret.isVoid = false ∧ Stmt.blockReturns f.body = false) ∧
    ∀ (ret : Ty) (fuel : Nat) (pre post : List Stmt) (s : GenState),
      Stmt.blockReturns pre = true → s.Tidy →
        (genBlock ret fuel (pre ++ post)).run s = (genBlock ret fuel pre).run s := by
  obtain ⟨hended, hrun⟩ := genFunction_run_of_body ⟨rfl, rfl, rfl⟩ hbody
  exact ⟨hended, hrun, compileFunction_missingReturn_iff hbody, genBlock_append_of_returns⟩

/-- A function declared to return `Int32` whose body is empty: the body succeeds with the entry
block still open, and compiling the function fails for a missing return. -/
theorem empty_int32_body_missing_return :
    ((genBody { name := "f", params := [], body := [] } ⟨.scalar .int32, []⟩).run
        (startState ⟨[]⟩ ⟨.scalar .int32, []⟩ "f")).run.run {} =
      (.ok ((), { startState ⟨[]⟩ ⟨.scalar .int32, []⟩ "f" with
        blocks := #[{ label := "entry_0" }], blockCounter := 1 }), { blocksCreated := 1 }) ∧
    GenState.terminated { startState ⟨[]⟩ ⟨.scalar .int32, []⟩ "f" with
      blocks := #[{ label := "entry_0" }], blockCounter := 1 } = false ∧
    ∃ e, ((compileFunction ⟨[]⟩ { name := "f", params := [], body := [] } ⟨.scalar .int32, []⟩
      "f").run {}).1 = .error e ∧ e.kind = .missingReturn := by
  have h := missing_return_follows_syntax ⟨[]⟩ { name := "f", params := [], body := [] }
    ⟨.scalar .int32, []⟩ "f" {} { blocksCreated := 1 }
    { startState ⟨[]⟩ ⟨.scalar .int32, []⟩ "f" with
      blocks := #[{ label := "entry_0" }], blockCounter := 1 } rfl
  exact ⟨rfl, h.1, h.2.2.1.2 ⟨rfl, rfl⟩⟩

end Codegen

end TypedJit

import TypedJit.Proofs.Interpreter.Faults

/-!
# Every run fails with a compile error or a fault
-/

namespace TypedJit.Interpreter

/-- What an expression guarantees: the frame is unchanged and the value well formed. -/
def ExprRuns (fr : Frame) (v : Value) (fr' : Frame) (_ : Machine) : Prop :=
  fr' = fr ∧ v.WellFormed

/-- What a statement guarantees: the frame is still one of the library, with the same return
type, and a value returned is a well-formed value of that type. -/
def StmtRuns (lib : Library) (fr : Frame) (fl : Flow) (fr' : Frame) (_ : Machine) : Prop :=
  fr'.OfLibrary lib ∧ fr'.ret = fr.ret ∧ fl.Returns fr.ret

variable (lib : Library)

/-- The properties of every function of the interpreter at budget `fuel`: failures are compile
errors or faults (a call's, faults or compile errors that name a function), values are well
formed, and a function returns a value of its return type. -/
structure Regular (fuel : Nat) : Prop where
  eval : ∀ e fr m, fr.OfLibrary lib →
    Within (eval lib fuel e) fr m (·.isCompileOrFault) (ExprRuns fr)
  evalCall : ∀ func args kws span fr m, fr.OfLibrary lib →
    Within (evalCall lib fuel func args kws span) fr m (·.isCompileOrFault) (ExprRuns fr)
  evalArgs : ∀ as ps fr m, fr.OfLibrary lib →
    Within (evalArgs lib fuel as ps) fr m (·.isCompileOrFault) fun vs fr' _ =>
      fr' = fr ∧ vs.length = min as.length ps.length ∧ ∀ v ∈ vs, v.WellFormed
  callFunction : ∀ id values span fr m, (∀ v ∈ values, v.WellFormed) →
    Within (callFunction lib fuel id values span) fr m (·.isFaultOrCallee) fun v fr' _ =>
      fr' = fr ∧ v.WellFormed ∧ ∃ d sig, lib.definition? id = some (d, sig) ∧ v.ty = sig.ret
  execute : ∀ f sig values fr m, fr.OfLibrary lib → fr.ret = sig.ret →
    (∀ v ∈ values, v.WellFormed) →
    Within (execute lib fuel f sig values) fr m (·.isCompileOrFault) fun v _ _ =>
      v.ty = sig.ret ∧ v.WellFormed
  execBlock : ∀ body fr m, fr.OfLibrary lib →
    Within (execBlock lib fuel body) fr m (·.isCompileOrFault) (StmtRuns lib fr)
  execStmt : ∀ s fr m, fr.OfLibrary lib →
    Within (execStmt lib fuel s) fr m (·.isCompileOrFault) (StmtRuns lib fr)
  assign : ∀ target value fr m, fr.OfLibrary lib →
    Within (assign lib fuel target value) fr m (·.isCompileOrFault) fun _ fr' _ =>
      fr'.OfLibrary lib ∧ fr'.ret = fr.ret
  place : ∀ target fr m, fr.OfLibrary lib →
    Within (place lib fuel target) fr m (·.isCompileOrFault) fun _ fr' _ => fr' = fr
  execFor : ∀ target ts iter body fr m, fr.OfLibrary lib →
    Within (execFor lib fuel target ts iter body) fr m (·.isCompileOrFault) (StmtRuns lib fr)
  forSteps : ∀ slot stop kind span body fr m, fr.OfLibrary lib →
    Within (forSteps lib fuel slot stop kind span body) fr m (·.isCompileOrFault) (StmtRuns lib fr)
  execWhile : ∀ test body fr m, fr.OfLibrary lib →
    Within (execWhile lib fuel test body) fr m (·.isCompileOrFault) (StmtRuns lib fr)
  execReturn : ∀ value span fr m, fr.OfLibrary lib →
    Within (execReturn lib fuel value span) fr m (·.isCompileOrFault) (StmtRuns lib fr)

/-- With no budget left every function fails at once, for want of fuel. -/
theorem regular_zero : Regular lib 0 := by
  refine ⟨?_, ?_, ?_, ?_, ?_, ?_, ?_, ?_, ?_, ?_, ?_, ?_, ?_⟩ <;>
    intros <;> simp only [eval, evalCall, evalArgs, callFunction, execute, execBlock, execStmt,
      assign, place, execFor, forSteps, execWhile, execReturn] <;> exact Within.throw rfl

variable {lib} {fuel : Nat} {fr : Frame} {m : Machine}

/-- An expression leaves the frame as it was: the rest of the run starts from that frame. -/
theorem Within.bind_expr {β : Type} {E : RunError → Prop} {Q : β → Frame → Machine → Prop}
    {x : Run Value} {f : Value → Run β} (hx : Within x fr m E (ExprRuns fr))
    (hf : ∀ v m₁, v.WellFormed → Within (f v) fr m₁ E Q) : Within (x >>= f) fr m E Q := by
  refine hx.bind fun v fr₁ m₁ h => ?_
  obtain ⟨rfl, hv⟩ := h
  exact hf v m₁ hv

/-- A statement after a statement that kept the return type. -/
theorem StmtRuns.trans {fr₁ fr' : Frame} {m' : Machine} {fl : Flow} (hret : fr₁.ret = fr.ret)
    (h : StmtRuns lib fr₁ fl fr' m') : StmtRuns lib fr fl fr' m' :=
  ⟨h.1, h.2.1.trans hret, hret ▸ h.2.2⟩

theorem scalarOf_eq_error' {v : Value} {span : Span} {e : RunError} (h : scalarOf v span = .error e) :
    e.isCompileOrFault = true := by
  obtain ⟨⟨c, rfl⟩, -⟩ := scalarOf_eq_error h
  rfl

theorem eval_regular (ih : Regular lib fuel) (e : Expr) (hfr : fr.OfLibrary lib) :
    Within (eval lib (fuel + 1) e) fr m (·.isCompileOrFault) (ExprRuns fr) := by
  simp only [eval]
  refine Within.mapError ?_ fun e he => by simpa using he
  cases e with
  | const lit span =>
    exact Within.ofExcept (fun _ h => constantValue_eq_error h) fun v hv =>
      ⟨rfl, constantValue_wellFormed hv⟩
  | name n span =>
    refine Within.bind_get (Within.bind_liftCompile (fun _ _ => rfl) fun r _ => ?_)
    split
    · exact Within.bind_get (Within.pure ⟨rfl, hfr.getD _⟩)
    · exact Within.pure ⟨rfl, trivial⟩
    · exact Within.compileError rfl
    · exact Within.compileError rfl
  | binary op l r span =>
    refine (ih.eval l fr m hfr).bind_expr fun lv m₁ _ => ?_
    refine (ih.eval r fr m₁ hfr).bind_expr fun rv m₂ _ => ?_
    exact Within.ofExcept (fun _ h => binaryValue_eq_error h) fun v hv =>
      ⟨rfl, binaryValue_wellFormed hv⟩
  | compare op l r span =>
    refine (ih.eval l fr m hfr).bind_expr fun lv m₁ _ => ?_
    refine (ih.eval r fr m₁ hfr).bind_expr fun rv m₂ _ => ?_
    exact Within.ofExcept (fun _ h => compareValue_eq_error h) fun v hv =>
      ⟨rfl, compareValue_wellFormed hv⟩
  | unary op x span =>
    refine (ih.eval x fr m hfr).bind_expr fun v m₁ _ => ?_
    exact Within.ofExcept (fun _ h => unaryValue_eq_error h) fun w hw =>
      ⟨rfl, unaryValue_wellFormed hw⟩
  | logic op l r span =>
    refine (ih.eval l fr m hfr).bind_expr fun lv m₁ _ => ?_
    refine Within.bind_ofExcept (fun _ h => truthyValue_eq_error h) fun left _ => ?_
    split
    · exact Within.bind (Within.pure (P := fun _ fr' _ => fr' = fr) rfl) fun _ _ _ h =>
        Within.pure ⟨h, trivial⟩
    · exact Within.bind (Within.pure (P := fun _ fr' _ => fr' = fr) rfl) fun _ _ _ h =>
        Within.pure ⟨h, trivial⟩
    · refine (ih.eval r fr m₁ hfr).bind_expr fun rv m₂ _ => ?_
      exact Within.bind_ofExcept (fun _ h => truthyValue_eq_error h) fun _ _ =>
        Within.pure ⟨rfl, trivial⟩
  | call func args kws span => exact ih.evalCall func args kws span fr m hfr
  | index value i span =>
    refine (ih.eval value fr m hfr).bind_expr fun c m₁ _ => ?_
    refine (ih.eval i fr m₁ hfr).bind_expr fun idx m₂ _ => ?_
    refine Within.bind_ofExcept (fun _ h => indexOf_eq_error h) fun position _ => ?_
    split
    · exact Within.bind_ofExcept
        (fun _ h => RunError.isCompileOrFault_of_isFault (laneIndex_eq_error h)) fun _ _ =>
        Within.pure ⟨rfl, trivial⟩
    · refine Within.bind ((elementIndex_within _ _ _ _).mono
        (fun _ h => RunError.isCompileOrFault_of_isFault h) fun _ _ _ h => h.1)
        fun pos fr₃ m₃ hfr₃ => ?_
      subst fr₃
      exact Within.bind_machine (Within.pure ⟨rfl, trivial⟩)
    · exact Within.compileError rfl
  | slice value lo hi span =>
    refine (ih.eval value fr m hfr).bind_expr fun c m₁ _ => ?_
    split
    · exact Within.bind_compileError rfl
    split
    · split
      · split
        · refine (ih.eval _ fr m₁ hfr).bind_expr fun idx m₂ _ => ?_
          refine Within.bind_ofExcept (fun _ h => indexOf_eq_error h) fun lower _ => ?_
          split
          · exact Within.bind_machine (Within.bind_throw rfl)
          · exact Within.pure ⟨rfl, rfl⟩
        · simp only [pure_bind]
          split
          · exact Within.bind_machine (Within.bind_throw rfl)
          · exact Within.pure ⟨rfl, rfl⟩
      · exact Within.compileError rfl
    · exact Within.compileError rfl
  | unsupported c span => exact Within.compileError rfl

theorem evalCall_regular (ih : Regular lib fuel) (hlib : lib.Consistent) (func : Expr)
    (args : List Expr) (kws : List Keyword) (span : Span) (hfr : fr.OfLibrary lib) :
    Within (evalCall lib (fuel + 1) func args kws span) fr m (·.isCompileOrFault) (ExprRuns fr) := by
  simp only [evalCall]
  split
  · refine Within.bind_get (Within.bind_liftCompile (fun _ _ => rfl) fun r hr => ?_)
    split
    · exact Within.bind_compileError rfl
    simp only [pure_bind]
    split
    · -- a call: the keyword and arity checks fail at once, else the arguments are evaluated
      rename_i f
      split
      · exact Within.bind_compileError rfl
      split
      · exact Within.bind_compileError rfl
      rename_i hlen
      refine (ih.evalArgs args f.sig.params fr m hfr).bind fun values fr₁ m₁ h => ?_
      obtain ⟨hfr₁, hvlen, hvalues⟩ := h
      subst fr₁
      split
      · -- a builtin of the library is a standard one, given one value per parameter
        rename_i hbuiltin
        have hglobal := (Scope.resolve_eq_global_iff.1 hr).2
        rw [hfr.globals] at hglobal
        have hcount : values.length = f.sig.params.length := by
          rw [hvlen, not_not.1 hlen, Nat.min_self]
        refine (callBuiltin_within (hlib.builtins _ _ hglobal hbuiltin) hcount).mono
          (fun _ h => ?_) fun v fr' _ h => ⟨h.1, ?_⟩
        · obtain ⟨⟨c, rfl⟩, -⟩ := h
          rfl
        · obtain ⟨r, rfl, -⟩ := h.2
          trivial
      · exact (ih.callFunction f.id values span fr m₁ hvalues).mono
          (fun _ h => RunError.isCompileOrFault_of_isFaultOrCallee h) fun _ _ _ h => ⟨h.1, h.2.1⟩
    · exact Within.compileError rfl
    · -- a cast of one argument
      split
      · split
        · exact Within.bind_compileError rfl
        refine (ih.eval _ fr m hfr).bind_expr fun v m₁ hv => ?_
        exact Within.ofExcept (fun _ h => castValue_eq_error h) fun w hw =>
          ⟨rfl, castValue_wellFormed hv hw⟩
      · exact Within.compileError rfl
    · exact Within.compileError rfl
    · exact Within.compileError rfl
    · exact Within.compileError rfl
  · exact Within.compileError rfl

theorem evalArgs_regular (ih : Regular lib fuel) (as : List Expr) (ps : List Ty)
    (hfr : fr.OfLibrary lib) :
    Within (evalArgs lib (fuel + 1) as ps) fr m (·.isCompileOrFault) fun vs fr' _ =>
      fr' = fr ∧ vs.length = min as.length ps.length ∧ ∀ v ∈ vs, v.WellFormed := by
  cases as with
  | nil =>
    simp only [evalArgs]
    exact Within.pure ⟨rfl, by simp, by simp⟩
  | cons a as =>
    cases ps with
    | nil =>
      simp only [evalArgs]
      exact Within.pure ⟨rfl, by simp, by simp⟩
    | cons p ps =>
      simp only [evalArgs]
      refine (ih.eval a fr m hfr).bind_expr fun v m₁ hv => ?_
      refine Within.bind_ofExcept (fun _ h => castValue_eq_error h) fun c hc => ?_
      refine (ih.evalArgs as ps fr m₁ hfr).bind fun rest fr₂ m₂ h => ?_
      obtain ⟨rfl, hlen, hrest⟩ := h
      refine Within.pure ⟨rfl, by simp [hlen, Nat.succ_min_succ], fun w hw => ?_⟩
      rcases List.mem_cons.1 hw with rfl | hw
      · exact castValue_wellFormed hv hc
      · exact hrest w hw

/-- A call runs the callee in a fresh frame of the library and gives the caller's frame back; a
compile error of the body comes back wrapped with the callee's context. -/
theorem callFunction_regular (ih : Regular lib fuel) (id : Nat) (values : List Value) (span : Span)
    (hvalues : ∀ v ∈ values, v.WellFormed) :
    Within (callFunction lib (fuel + 1) id values span) fr m (·.isFaultOrCallee) fun v fr' _ =>
      fr' = fr ∧ v.WellFormed ∧ ∃ d sig, lib.definition? id = some (d, sig) ∧ v.ty = sig.ret := by
  simp only [callFunction]
  refine Within.bind_machine ?_
  split
  · exact Within.bind_throw rfl
  split
  · rename_i f sig hdef
    refine Within.bind_modifyMachine (Within.bind_get (Within.bind_set ?_))
    have hfresh : Frame.OfLibrary lib
        ({ scope := { globals := lib.globals }, slots := #[], ret := sig.ret } : Frame) :=
      ⟨rfl, fun v hv => by simp at hv⟩
    refine Within.bind (Within.tryCatch (ih.execute f sig values _ _ hfresh rfl hvalues)
      fun e m₁ he => ?_) fun result fr₁ m₁ hresult => ?_
    · refine Within.bind_modifyMachine ?_
      split
      · exact Within.throw (RunError.isFaultOrCallee_inFunction _ _)
      · rename_i hne
        exact Within.throw (RunError.isFaultOrCallee_of_not_compile he hne)
    · exact Within.bind_modifyMachine
        (Within.bind_set (Within.pure ⟨rfl, hresult.2, f, sig, hdef, hresult.1⟩))
  · exact Within.throw rfl

theorem execute_regular (ih : Regular lib fuel) (f : FunctionDef) (sig : Signature)
    (values : List Value) (hfr : fr.OfLibrary lib) (hret : fr.ret = sig.ret)
    (hvalues : ∀ v ∈ values, v.WellFormed) :
    Within (execute lib (fuel + 1) f sig values) fr m (·.isCompileOrFault) fun v _ _ =>
      v.ty = sig.ret ∧ v.WellFormed := by
  simp only [execute]
  -- each parameter is declared with its argument converted to the parameter's type
  refine Within.bind (Within.forIn (fun fr' _ => fr'.OfLibrary lib ∧ fr'.ret = sig.ret) ?_
    ⟨hfr, hret⟩) fun _ fr₁ m₁ hinv => ?_
  · rintro ⟨⟨p, ty⟩, v⟩ hmem _ fr₂ m₂ ⟨hfr₂, hret₂⟩
    refine Within.bind_ofExcept (fun _ h => castValue_eq_error h) fun c hc => ?_
    have hc : c.WellFormed := castValue_wellFormed (hvalues v (List.of_mem_zip hmem).2) hc
    exact Within.bind (declareLocal_within hfr₂ hc p.name ty p.span) fun _ _ _ h =>
      Within.pure ⟨h.1, h.2.trans hret₂⟩
  · refine (ih.execBlock f.body fr₁ m₁ hinv.1).bind fun fl fr₂ m₂ h => ?_
    obtain ⟨-, -, hfl⟩ := h
    rw [hinv.2] at hfl
    split
    · exact Within.pure hfl
    · split
      · rename_i hvoid
        exact Within.pure ⟨(Ty.isVoid_iff.1 hvoid).symm, trivial⟩
      · exact Within.compileError rfl

theorem place_regular (ih : Regular lib fuel) (target : Expr) (hfr : fr.OfLibrary lib) :
    Within (place lib (fuel + 1) target) fr m (·.isCompileOrFault) fun _ fr' _ => fr' = fr := by
  simp only [place]
  split
  · refine Within.bind_get (Within.bind_liftCompile (fun _ _ => rfl) fun r _ => ?_)
    split
    · exact Within.pure rfl
    · exact Within.compileError rfl
  · exact Within.compileError rfl
  · refine (ih.eval _ fr m hfr).bind_expr fun c m₁ _ => ?_
    refine (ih.eval _ fr m₁ hfr).bind_expr fun idx m₂ _ => ?_
    refine Within.bind_ofExcept (fun _ h => indexOf_eq_error h) fun position _ => Within.bind_get ?_
    split
    · exact Within.bind_ofExcept
        (fun _ h => RunError.isCompileOrFault_of_isFault (laneIndex_eq_error h)) fun _ _ =>
        Within.pure rfl
    · exact Within.compileError rfl
    · split
      · exact Within.bind ((elementIndex_within _ _ _ _).mono
          (fun _ h => RunError.isCompileOrFault_of_isFault h) fun _ _ _ h => h.1)
          fun _ _ _ h => Within.pure h
      · exact Within.compileError rfl
    · exact Within.compileError rfl
  · exact Within.compileError rfl

theorem assign_regular (ih : Regular lib fuel) (target value : Expr) (hfr : fr.OfLibrary lib) :
    Within (assign lib (fuel + 1) target value) fr m (·.isCompileOrFault) fun _ fr' _ =>
      fr'.OfLibrary lib ∧ fr'.ret = fr.ret := by
  simp only [assign]
  refine Within.bind_get ?_
  split
  on_goal 1 => split
  · -- an unseen name is declared with the value's type, an array decaying to a pointer
    rename_i n _ _
    refine (ih.eval value fr m hfr).bind_expr fun rhs m₁ hrhs => ?_
    have hdeclare : ∀ ty, Within (do
        let c ← Run.ofExcept (castValue rhs ty value.span)
        declareLocal n ty c target.span
        pure ()) fr m₁ (·.isCompileOrFault) fun _ fr' _ =>
          fr'.OfLibrary lib ∧ fr'.ret = fr.ret := by
      intro ty
      refine Within.bind_ofExcept (fun _ h => castValue_eq_error h) fun c hc => ?_
      exact Within.bind (declareLocal_within hfr (castValue_wellFormed hrhs hc) n ty target.span)
        fun _ _ _ h => Within.pure h
    split
    · exact Within.bind_compileError rfl
    · simp only [pure_bind]
      exact hdeclare _
    · simp only [pure_bind]
      exact hdeclare _
  -- the general path: the value is converted to the type of the place found for the target
  all_goals
    refine (ih.eval value fr m hfr).bind_expr fun rhs m₁ hrhs => ?_
    refine (ih.place target fr m₁ hfr).bind fun p fr₂ m₂ h => ?_
    subst fr₂
    split
    · exact Within.bind_compileError rfl
    refine Within.bind_ofExcept (fun _ h => castValue_eq_error h) fun stored hstored => ?_
    exact storePlace_within hfr p (castValue_wellFormed hrhs hstored)

theorem execStmt_regular (ih : Regular lib fuel) (s : Stmt) (hfr : fr.OfLibrary lib) :
    Within (execStmt lib (fuel + 1) s) fr m (·.isCompileOrFault) (StmtRuns lib fr) := by
  cases s <;> simp only [execStmt]
  case assign t v _ =>
    exact Within.bind (ih.assign t v fr m hfr) fun _ _ _ h => Within.pure ⟨h.1, h.2, trivial⟩
  case augAssign t op v _ =>
    refine (ih.place t fr m hfr).bind fun p fr₁ m₁ h => ?_
    subst fr₁
    refine (loadPlace_within hfr p).bind fun cur fr₂ m₂ h => ?_
    obtain ⟨hfr₂, -⟩ := h
    subst fr₂
    refine (ih.eval v fr m₂ hfr).bind_expr fun rhs m₃ _ => ?_
    refine Within.bind_ofExcept (fun _ h => binaryValue_eq_error h) fun r hr =>
      Within.bind_ofExcept (fun _ h => castValue_eq_error h) fun stored hstored => ?_
    have hst : stored.WellFormed := castValue_wellFormed (binaryValue_wellFormed hr) hstored
    exact (storePlace_within hfr p hst).bind fun _ _ _ h => Within.pure ⟨h.1, h.2, trivial⟩
  case eval e _ =>
    have hexpr : ∀ e, Within (do let _ ← eval lib fuel e; pure Flow.next) fr m
        (·.isCompileOrFault) (StmtRuns lib fr) :=
      fun e => (ih.eval e fr m hfr).bind_expr fun _ _ _ => Within.pure ⟨hfr, rfl, trivial⟩
    split
    · exact Within.pure ⟨hfr, rfl, trivial⟩
    · refine Within.bind_get ?_
      split
      · exact Within.bind (declareVars_within hfr) fun _ _ _ h => Within.pure ⟨h.1, h.2, trivial⟩
      · exact hexpr _
    · exact hexpr _
  case branch test body orelse _ =>
    refine (ih.eval test fr m hfr).bind_expr fun c m₁ _ => ?_
    exact Within.bind_ofExcept (fun _ h => truthyValue_eq_error h) fun b _ =>
      ih.execBlock _ fr m₁ hfr
  case forLoop target ts iter body _ => exact ih.execFor target ts iter body fr m hfr
  case whileLoop test body _ => exact ih.execWhile test body fr m hfr
  case ret value span => exact ih.execReturn value span fr m hfr
  case pass _ => exact Within.pure ⟨hfr, rfl, trivial⟩
  case unsupported c span => exact Within.compileError rfl

theorem execBlock_regular (ih : Regular lib fuel) (body : List Stmt) (hfr : fr.OfLibrary lib) :
    Within (execBlock lib (fuel + 1) body) fr m (·.isCompileOrFault) (StmtRuns lib fr) := by
  cases body with
  | nil =>
    simp only [execBlock]
    exact Within.pure ⟨hfr, rfl, trivial⟩
  | cons s rest =>
    simp only [execBlock]
    refine (Within.mapError (ih.execStmt s fr m hfr) fun e he => by simpa using he).bind
      fun fl fr₁ m₁ h => ?_
    obtain ⟨hfr₁, hret₁, hfl⟩ := h
    split
    · exact Within.pure ⟨hfr₁, hret₁, hfl⟩
    · exact (ih.execBlock rest fr₁ m₁ hfr₁).mono (fun _ h => h) fun _ _ _ h => h.trans hret₁

theorem execWhile_regular (ih : Regular lib fuel) (test : Expr) (body : List Stmt)
    (hfr : fr.OfLibrary lib) :
    Within (execWhile lib (fuel + 1) test body) fr m (·.isCompileOrFault) (StmtRuns lib fr) := by
  simp only [execWhile]
  refine (ih.eval test fr m hfr).bind_expr fun c m₁ _ => ?_
  refine Within.bind_ofExcept (fun _ h => truthyValue_eq_error h) fun b _ => ?_
  split
  · exact Within.pure ⟨hfr, rfl, trivial⟩
  · refine (ih.execBlock body fr m₁ hfr).bind fun fl fr₂ m₂ h => ?_
    obtain ⟨hfr₂, hret₂, hfl⟩ := h
    split
    · exact Within.pure ⟨hfr₂, hret₂, hfl⟩
    · exact (ih.execWhile test body fr₂ m₂ hfr₂).mono (fun _ h => h) fun _ _ _ h => h.trans hret₂

theorem execReturn_regular (ih : Regular lib fuel) (value : Option Expr) (span : Span)
    (hfr : fr.OfLibrary lib) :
    Within (execReturn lib (fuel + 1) value span) fr m (·.isCompileOrFault) (StmtRuns lib fr) := by
  simp only [execReturn]
  refine Within.bind_get ?_
  split
  · rename_i hret
    exact Within.pure ⟨hfr, rfl, hret.symm, trivial⟩
  · exact Within.compileError rfl
  · exact Within.compileError rfl
  · refine (ih.eval _ fr m hfr).bind_expr fun r m₁ hr => ?_
    split
    · exact Within.bind_compileError rfl
    · exact Within.bind_ofExcept (fun _ h => castValue_eq_error h) fun w hw =>
        Within.pure ⟨hfr, rfl, castValue_ty hw, castValue_wellFormed hr hw⟩

theorem forSteps_regular (ih : Regular lib fuel) (slot : Nat) (stop : Int) (kind : ScalarType)
    (span : Span) (body : List Stmt) (hfr : fr.OfLibrary lib) :
    Within (forSteps lib (fuel + 1) slot stop kind span body) fr m (·.isCompileOrFault)
      (StmtRuns lib fr) := by
  simp only [forSteps]
  refine Within.bind_get (Within.bind_ofExcept (fun _ h => scalarOf_eq_error' h) fun cur _ => ?_)
  split
  · exact Within.pure ⟨hfr, rfl, trivial⟩
  refine (ih.execBlock body fr m hfr).bind fun fl fr₁ m₁ h => ?_
  obtain ⟨hfr₁, hret₁, hfl⟩ := h
  split
  · exact Within.pure ⟨hfr₁, hret₁, hfl⟩
  refine Within.bind_get (Within.bind_ofExcept (fun _ h => scalarOf_eq_error' h) fun cur' _ =>
    Within.bind_modifyFrame ?_)
  -- the counter's slot gets a scalar
  exact (ih.forSteps slot stop kind span body _ m₁ (hfr₁.setSlot slot (Value.wellFormed_scalar _))).mono
    (fun _ h => h) fun _ _ _ h => h.trans hret₁

theorem execFor_regular (ih : Regular lib fuel) (target : String) (ts : Span) (iter : Expr)
    (body : List Stmt) (hfr : fr.OfLibrary lib) :
    Within (execFor lib (fuel + 1) target ts iter body) fr m (·.isCompileOrFault)
      (StmtRuns lib fr) := by
  simp only [execFor]
  refine Within.bind_get ?_
  refine Within.bind (rangeBounds_within fr iter) fun bounds fr₁ m₁ hfr₁ => ?_
  subst fr₁
  -- once the counter's type is known: the counter is declared, then the steps run
  have hkind : ∀ (start stopV : Value) (s : ScalarType) (m₂ : Machine), start.WellFormed →
      Within (do
        let initial ← Run.ofExcept (castValue start (.scalar s) iter.span)
        declareLocal target (.scalar s) initial ts
        let slot := (← get).slots.size - 1
        let stopValue ← Run.ofExcept (castValue stopV (.scalar s) bounds.2.span)
        let stopScalar ← Run.ofExcept (scalarOf stopValue bounds.2.span)
        forSteps lib fuel slot stopScalar.toInt s iter.span body) fr m₂ (·.isCompileOrFault)
        (StmtRuns lib fr) := by
    intro start stopV s m₂ hstart
    refine Within.bind_ofExcept (fun _ h => castValue_eq_error h) fun initial hinitial => ?_
    refine Within.bind (declareLocal_within hfr (castValue_wellFormed hstart hinitial) target
      (.scalar s) ts) fun _ fr₃ m₃ h => ?_
    obtain ⟨hfr₃, hret₃⟩ := h
    refine Within.bind_get (Within.bind_ofExcept (fun _ h => castValue_eq_error h) fun _ _ =>
      Within.bind_ofExcept (fun _ h => scalarOf_eq_error' h) fun stopScalar _ => ?_)
    exact (ih.forSteps _ _ s _ body fr₃ m₃ hfr₃).mono (fun _ h => h) fun _ _ _ h => h.trans hret₃
  refine Within.bind_liftCompile (fun _ _ => rfl) fun _ _ => ?_
  split
  · refine (ih.eval _ fr m₁ hfr).bind_expr fun start m₂ hstart => ?_
    refine (ih.eval _ fr m₂ hfr).bind_expr fun stopV m₃ _ => ?_
    split
    · split
      · simp only [pure_bind]
        exact hkind start stopV _ m₃ hstart
      · exact Within.bind_compileError rfl
    · exact Within.bind_compileError rfl
  · simp only [pure_bind]
    refine (ih.eval _ fr m₁ hfr).bind_expr fun stopV m₃ _ => ?_
    split
    · split
      · exact hkind _ stopV _ m₃ trivial
      · exact Within.bind_compileError rfl
    · exact Within.bind_compileError rfl

/-- Under a library whose builtins are the standard ones, every function of the interpreter is
regular at every budget: by induction on the budget, each function at `fuel + 1` only calls
functions at `fuel`. -/
theorem regular (hlib : lib.Consistent) : ∀ fuel, Regular lib fuel
  | 0 => regular_zero lib
  | fuel + 1 =>
    have ih := regular hlib fuel
    { eval := fun e _ _ hfr => eval_regular ih e hfr
      evalCall := fun func args kws span _ _ hfr => evalCall_regular ih hlib func args kws span hfr
      evalArgs := fun as ps _ _ hfr => evalArgs_regular ih as ps hfr
      callFunction := fun id values span _ _ hvalues => callFunction_regular ih id values span hvalues
      execute := fun f sig values _ _ hfr hret hvalues =>
        execute_regular ih f sig values hfr hret hvalues
      execBlock := fun body _ _ hfr => execBlock_regular ih body hfr
      execStmt := fun s _ _ hfr => execStmt_regular ih s hfr
      assign := fun target value _ _ hfr => assign_regular ih target value hfr
      place := fun target _ _ hfr => place_regular ih target hfr
      execFor := fun target ts iter body _ _ hfr => execFor_regular ih target ts iter body hfr
      forSteps := fun slot stop kind span body _ _ hfr =>
        forSteps_regular ih slot stop kind span body hfr
      execWhile := fun test body _ _ hfr => execWhile_regular ih test body hfr
      execReturn := fun value span _ _ hfr => execReturn_regular ih value span hfr }

end TypedJit.Interpreter

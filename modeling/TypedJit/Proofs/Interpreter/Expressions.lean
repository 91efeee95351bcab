import TypedJit.Proofs.Interpreter.Steps

/-!
# The interpreter keeps memory well typed
-/

namespace TypedJit.Interpreter

/-- What an expression guarantees: the frame is unchanged and the value agrees with memory. -/
def ExprPost (fr : Frame) (v : Value) (fr' : Frame) (m' : Machine) : Prop :=
  fr' = fr ∧ v.Typed m'.shape

/-- What a statement guarantees: the frame agrees with memory, binds at least the names it bound,
and the value returned, if any, agrees with memory. -/
def StmtPost (fr : Frame) (fl : Flow) (fr' : Frame) (m' : Machine) : Prop :=
  fr'.Typed m'.shape ∧ fr.scope.locals <+: fr'.scope.locals ∧ fl.Typed m'.shape

namespace Preserves

variable {β : Type} {fr : Frame} {m : Machine} {Q : β → Frame → Machine → Prop}

/-- An expression leaves the frame as it was: the rest of the run starts from that frame. -/
theorem bind_expr {x : Run Value} {f : Value → Run β} (hx : Preserves x fr m (ExprPost fr))
    (hf : ∀ v m₁, m.shape <+: m₁.shape → v.Typed m₁.shape → Preserves (f v) fr m₁ Q) :
    Preserves (x >>= f) fr m Q := by
  refine bind hx fun v fr₁ m₁ hg h => ?_
  obtain ⟨rfl, hv⟩ := h
  exact hf v m₁ hg hv

theorem bind_stmt {x : Run Flow} {f : Flow → Run β} (hx : Preserves x fr m (StmtPost fr))
    (hf : ∀ fl fr₁ m₁, m.shape <+: m₁.shape → fr₁.Typed m₁.shape →
      fr.scope.locals <+: fr₁.scope.locals → fl.Typed m₁.shape → Preserves (f fl) fr₁ m₁ Q) :
    Preserves (x >>= f) fr m Q := by
  refine bind hx fun fl fr₁ m₁ hg h => ?_
  obtain ⟨hfr₁, hpre, hfl⟩ := h
  exact hf fl fr₁ m₁ hg hfr₁ hpre hfl

end Preserves

variable (lib : Library)

/-- The properties of every function of the interpreter at budget `fuel`. -/
structure Sound (fuel : Nat) : Prop where
  eval : ∀ e fr m, fr.Typed m.shape → Preserves (eval lib fuel e) fr m (ExprPost fr)
  evalCall : ∀ func args kws span fr m, fr.Typed m.shape →
    Preserves (evalCall lib fuel func args kws span) fr m (ExprPost fr)
  evalArgs : ∀ as ps fr m, fr.Typed m.shape →
    Preserves (evalArgs lib fuel as ps) fr m fun vs fr' m' => fr' = fr ∧ ∀ v ∈ vs, v.Typed m'.shape
  callFunction : ∀ id values span fr m, (∀ v ∈ values, v.Typed m.shape) →
    Preserves (callFunction lib fuel id values span) fr m (ExprPost fr)
  execute : ∀ f sig values fr m, fr.Typed m.shape → (∀ v ∈ values, v.Typed m.shape) →
    Preserves (execute lib fuel f sig values) fr m fun v _ m' => v.Typed m'.shape
  execBlock : ∀ body fr m, fr.Typed m.shape → Preserves (execBlock lib fuel body) fr m (StmtPost fr)
  execStmt : ∀ s fr m, fr.Typed m.shape → Preserves (execStmt lib fuel s) fr m (StmtPost fr)
  assign : ∀ target value fr m, fr.Typed m.shape →
    Preserves (assign lib fuel target value) fr m fun _ fr' m' =>
      fr'.Typed m'.shape ∧ fr.scope.locals <+: fr'.scope.locals
  place : ∀ target fr m, fr.Typed m.shape →
    Preserves (place lib fuel target) fr m fun p fr' m' => fr' = fr ∧ p.Typed fr m'.shape
  execFor : ∀ target ts iter body fr m, fr.Typed m.shape →
    Preserves (execFor lib fuel target ts iter body) fr m (StmtPost fr)
  forSteps : ∀ slot stop kind span body fr m, fr.Typed m.shape →
    (∃ q ∈ fr.scope.locals, q.2 = ⟨.scalar kind, slot⟩) →
    Preserves (forSteps lib fuel slot stop kind span body) fr m (StmtPost fr)
  execWhile : ∀ test body fr m, fr.Typed m.shape →
    Preserves (execWhile lib fuel test body) fr m (StmtPost fr)
  execReturn : ∀ value span fr m, fr.Typed m.shape →
    Preserves (execReturn lib fuel value span) fr m (StmtPost fr)

/-- With no budget left every function fails at once. -/
theorem sound_zero : Sound lib 0 := by
  refine ⟨?_, ?_, ?_, ?_, ?_, ?_, ?_, ?_, ?_, ?_, ?_, ?_, ?_⟩ <;>
    intros <;> simp only [eval, evalCall, evalArgs, callFunction, execute, execBlock, execStmt,
      assign, place, execFor, forSteps, execWhile, execReturn] <;> exact Preserves.throw

theorem Scope.resolve_of_local {H : Type} {s : Scope H} {n : String} {b : Binding H} {span : Span}
    (hb : s.local? n = some b) : s.resolve n span = .ok (.bound b) := by
  simp [Scope.resolve, hb]

theorem Scope.resolve_bound_mem {H : Type} {s : Scope H} {n : String} {b : Binding H} {span : Span}
    (h : s.resolve n span = .ok (.bound b)) : ∃ q ∈ s.locals, q.2 = b := by
  unfold Scope.resolve Scope.local? at h
  split at h
  · rename_i b' hb'
    cases h
    obtain ⟨q, hq, rfl⟩ := Option.map_eq_some_iff.1 hb'
    exact ⟨q, List.mem_of_find?_eq_some hq, rfl⟩
  · split at h <;> cases h

variable {lib} {fuel : Nat} {fr : Frame} {m : Machine}

/-- A name bound locally evaluates to the value in its slot. -/
theorem eval_name_local {n : String} {span : Span} {b : Binding Nat}
    (hb : fr.scope.local? n = some b) :
    Preserves (eval lib fuel (.name n span)) fr m fun v fr' _ =>
      fr' = fr ∧ v = (fr.slots[b.storage]?).getD .void := by
  cases fuel with
  | zero => exact Preserves.throw
  | succ fuel =>
    simp only [eval]
    refine Preserves.mapError (Preserves.bind_get (Preserves.bind_liftCompile fun r hr => ?_))
    rw [Scope.resolve_of_local hb] at hr
    cases hr
    exact Preserves.bind_get (Preserves.pure ⟨rfl, rfl⟩)

theorem eval_sound (ih : Sound lib fuel) (e : Expr) (hfr : fr.Typed m.shape) :
    Preserves (eval lib (fuel + 1) e) fr m (ExprPost fr) := by
  simp only [eval]
  refine Preserves.mapError ?_
  cases e with
  | const lit span => exact Preserves.ofExcept fun v hv => ⟨rfl, constantValue_typed hv⟩
  | name n span =>
    refine Preserves.bind_get (Preserves.bind_liftCompile fun r _ => ?_)
    split
    · exact Preserves.bind_get (Preserves.pure ⟨rfl, hfr.getD _⟩)
    · exact Preserves.pure ⟨rfl, trivial⟩
    · exact Preserves.compileError
    · exact Preserves.compileError
  | binary op l r span =>
    refine (ih.eval l fr m hfr).bind_expr fun lv m₁ hg₁ hlv => ?_
    refine (ih.eval r fr m₁ (hfr.mono hg₁)).bind_expr fun rv m₂ hg₂ hrv => ?_
    exact Preserves.ofExcept fun v hv => ⟨rfl, binaryValue_typed (hlv.mono hg₂) hrv hv⟩
  | compare op l r span =>
    refine (ih.eval l fr m hfr).bind_expr fun lv m₁ hg₁ _ => ?_
    refine (ih.eval r fr m₁ (hfr.mono hg₁)).bind_expr fun rv m₂ _ _ => ?_
    exact Preserves.ofExcept fun v hv => ⟨rfl, compareValue_typed hv⟩
  | unary op x span =>
    refine (ih.eval x fr m hfr).bind_expr fun v m₁ _ hv => ?_
    exact Preserves.ofExcept fun w hw => ⟨rfl, unaryValue_typed hv hw⟩
  | logic op l r span =>
    refine (ih.eval l fr m hfr).bind_expr fun lv m₁ hg₁ _ => ?_
    refine Preserves.bind_ofExcept fun left _ => ?_
    split
    · exact Preserves.bind (Preserves.pure rfl) fun _ _ _ _ h => Preserves.pure ⟨h, trivial⟩
    · exact Preserves.bind (Preserves.pure rfl) fun _ _ _ _ h => Preserves.pure ⟨h, trivial⟩
    · refine (ih.eval r fr m₁ (hfr.mono hg₁)).bind_expr fun rv m₂ _ _ => ?_
      exact Preserves.bind_ofExcept fun _ _ => Preserves.pure ⟨rfl, trivial⟩
  | call func args kws span => exact ih.evalCall func args kws span fr m hfr
  | index value i span =>
    refine (ih.eval value fr m hfr).bind_expr fun c m₁ hg₁ hc => ?_
    refine (ih.eval i fr m₁ (hfr.mono hg₁)).bind_expr fun idx m₂ hg₂ _ => ?_
    refine Preserves.bind_ofExcept fun position _ => ?_
    split
    · exact Preserves.bind_ofExcept fun _ _ => Preserves.pure ⟨rfl, trivial⟩
    · refine Preserves.bind (elementIndex_preserves _ _ _ _) fun pos fr₃ m₃ _ hfr₃ => ?_
      subst fr₃
      exact Preserves.bind_machine (Preserves.pure ⟨rfl, trivial⟩)
    · exact Preserves.compileError
  | slice value lo hi span =>
    refine (ih.eval value fr m hfr).bind_expr fun c m₁ hg₁ hc => ?_
    split
    · exact Preserves.bind_compileError
    split
    · rename_i ty region offset
      split
      · rename_i elem helem
        -- the slice points into the same region, with the same element type
        have hslice : ∀ S, m₁.shape <+: S → ∀ o, (Value.pointer (.slice elem) region o).Typed S := by
          intro S hS o
          obtain ⟨ts, hts, hall⟩ := hc.mono hS
          exact ⟨ts, hts, fun t ht => by rw [← hall t ht, helem]; rfl⟩
        split
        · refine (ih.eval _ fr m₁ (hfr.mono hg₁)).bind_expr fun idx m₂ hg₂ _ => ?_
          refine Preserves.bind_ofExcept fun lower _ => ?_
          split
          · exact Preserves.bind_machine Preserves.bind_throw
          · exact Preserves.pure ⟨rfl, hslice _ hg₂ _⟩
        · simp only [pure_bind]
          split
          · exact Preserves.bind_machine Preserves.bind_throw
          · exact Preserves.pure ⟨rfl, hslice _ (List.prefix_refl _) _⟩
      · exact Preserves.compileError
    · exact Preserves.compileError
  | unsupported c span => exact Preserves.compileError

theorem evalCall_sound (ih : Sound lib fuel) (func : Expr) (args : List Expr) (kws : List Keyword)
    (span : Span) (hfr : fr.Typed m.shape) :
    Preserves (evalCall lib (fuel + 1) func args kws span) fr m (ExprPost fr) := by
  simp only [evalCall]
  split
  · rename_i name _
    refine Preserves.bind_get (Preserves.bind_liftCompile fun r _ => ?_)
    split
    · exact Preserves.bind_compileError
    simp only [pure_bind]
    split
    · -- a call: the keyword and arity checks fail at once, else the arguments are evaluated
      rename_i f _
      split
      · exact Preserves.bind_compileError
      split
      · exact Preserves.bind_compileError
      refine Preserves.bind (ih.evalArgs args f.sig.params fr m hfr)
        fun values fr₁ m₁ hg₁ h => ?_
      obtain ⟨hfr₁, hvalues⟩ := h
      subst fr₁
      split
      · exact callBuiltin_preserves f values span
      · exact ih.callFunction f.id values span fr m₁ hvalues
    · exact Preserves.compileError
    · -- a cast of one argument
      split
      · split
        · exact Preserves.bind_compileError
        refine (ih.eval _ fr m hfr).bind_expr fun v m₁ _ hv => ?_
        exact Preserves.ofExcept fun w hw => ⟨rfl, (castValue_ok hv hw).2⟩
      · exact Preserves.compileError
    · exact Preserves.compileError
    · exact Preserves.compileError
    · exact Preserves.compileError
  · exact Preserves.compileError

theorem evalArgs_sound (ih : Sound lib fuel) (as : List Expr) (ps : List Ty)
    (hfr : fr.Typed m.shape) :
    Preserves (evalArgs lib (fuel + 1) as ps) fr m fun vs fr' m' =>
      fr' = fr ∧ ∀ v ∈ vs, v.Typed m'.shape := by
  cases as with
  | nil =>
    simp only [evalArgs]
    exact Preserves.pure ⟨rfl, by simp⟩
  | cons a as =>
    cases ps with
    | nil =>
      simp only [evalArgs]
      exact Preserves.pure ⟨rfl, by simp⟩
    | cons p ps =>
      simp only [evalArgs]
      refine (ih.eval a fr m hfr).bind_expr fun v m₁ hg₁ hv => ?_
      refine Preserves.bind_ofExcept fun c hc => ?_
      refine Preserves.bind (ih.evalArgs as ps fr m₁ (hfr.mono hg₁)) fun rest fr₂ m₂ hg₂ h => ?_
      obtain ⟨rfl, hrest⟩ := h
      refine Preserves.pure ⟨rfl, fun w hw => ?_⟩
      rcases List.mem_cons.1 hw with rfl | hw
      · exact (castValue_ok hv hc).2.mono hg₂
      · exact hrest w hw

/-- A call runs the callee in a fresh frame and gives the caller's frame back. -/
theorem callFunction_sound (ih : Sound lib fuel) (id : Nat) (values : List Value) (span : Span)
    (hvalues : ∀ v ∈ values, v.Typed m.shape) :
    Preserves (callFunction lib (fuel + 1) id values span) fr m (ExprPost fr) := by
  simp only [callFunction]
  refine Preserves.bind_machine ?_
  split
  · exact Preserves.bind_throw
  split
  · rename_i f sig _
    refine Preserves.bind_modifyMachine (List.prefix_refl _) (Preserves.bind_get ?_)
    refine Preserves.bind_set ?_
    have hfresh : Frame.Typed m.shape ({ scope := { globals := lib.globals }, slots := #[], ret := sig.ret } : Frame) :=
      ⟨fun q hq => by simp at hq, fun v hv => by simp at hv⟩
    refine Preserves.bind (Preserves.tryCatch (ih.execute f sig values _ _ hfresh hvalues) fun e m₁ _ => ?_)
      fun result fr₁ m₁ _ hresult => ?_
    · refine Preserves.bind_modifyMachine (List.prefix_refl _) ?_
      split
      · exact Preserves.throw
      · exact Preserves.throw
    · exact Preserves.bind_modifyMachine (List.prefix_refl _)
        (Preserves.bind_set (Preserves.pure ⟨rfl, hresult⟩))
  · exact Preserves.throw

theorem execute_sound (ih : Sound lib fuel) (f : FunctionDef) (sig : Signature) (values : List Value)
    (hfr : fr.Typed m.shape) (hvalues : ∀ v ∈ values, v.Typed m.shape) :
    Preserves (execute lib (fuel + 1) f sig values) fr m fun v _ m' => v.Typed m'.shape := by
  simp only [execute]
  -- each parameter is declared with its argument cast to the parameter's type
  refine Preserves.bind (Preserves.forIn
    (fun fr' m' => fr'.Typed m'.shape ∧ ∀ v ∈ values, v.Typed m'.shape) ?_ ⟨hfr, hvalues⟩)
    fun _ fr₁ m₁ _ hinv => ?_
  · rintro ⟨⟨p, ty⟩, v⟩ hmem _ fr₂ m₂ ⟨hfr₂, hvalues₂⟩
    refine Preserves.bind_ofExcept fun c hc => ?_
    obtain ⟨hcty, hct⟩ := castValue_ok (hvalues₂ v (List.of_mem_zip hmem).2) hc
    refine Preserves.bind (declareLocal_preserves p.name ty c p.span)
      fun _ fr₃ m₃ _ h => ?_
    obtain ⟨rfl, hlocals, hslots⟩ := h
    exact Preserves.pure ⟨Frame.Typed.declare hfr₂ hcty hct hlocals hslots, hvalues₂⟩
  · refine (ih.execBlock f.body fr₁ m₁ hinv.1).bind_stmt fun fl _ _ _ _ _ hfl => ?_
    split
    · exact Preserves.pure hfl
    · split
      · exact Preserves.pure (by trivial)
      · exact Preserves.compileError

end TypedJit.Interpreter

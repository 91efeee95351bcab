import TypedJit.Proofs.Interpreter.HostCall

/-!
# The call-depth limit
-/

namespace TypedJit

/-- The machine with call-depth limit `d`. -/
def Machine.withLimit (m : Machine) (d : Nat) : Machine := { m with maxDepth := d }

@[simp] theorem Machine.withLimit_maxDepth (m : Machine) (d : Nat) : (m.withLimit d).maxDepth = d :=
  rfl

@[simp] theorem Machine.withLimit_depth (m : Machine) (d : Nat) : (m.withLimit d).depth = m.depth :=
  rfl

@[simp] theorem Machine.withLimit_regions (m : Machine) (d : Nat) :
    (m.withLimit d).regions = m.regions := rfl

@[simp] theorem Machine.withLimit_output (m : Machine) (d : Nat) :
    (m.withLimit d).output = m.output := rfl

@[simp] theorem Machine.withLimit_self (m : Machine) : m.withLimit m.maxDepth = m := rfl

namespace Interpreter

variable {α β : Type}

/-- The outcomes of one computation from a machine with limit `d` and from the same machine with
limit `d'`: the first stopped at its limit, or both ended alike, on machines that differ only in
their limits. -/
def Agree (d d' : Nat) (p p' : Except RunError (α × Frame) × Machine) : Prop :=
  p.1 = .error (.callDepth d) ∨ p' = (p.1, p.2.withLimit d')

/-- Every run of `x` ends at the call depth and with the limit it started from, and a run with a
higher limit agrees with it. -/
structure Steady (x : Run α) : Prop where
  depth : ∀ fr m, ((x.run fr).run.run m).2.depth = m.depth
  limit : ∀ fr m, ((x.run fr).run.run m).2.maxDepth = m.maxDepth
  agree : ∀ fr m d', m.maxDepth ≤ d' →
    Agree m.maxDepth d' ((x.run fr).run.run m) ((x.run fr).run.run (m.withLimit d'))

namespace Steady

theorem pure (a : α) : Steady (Pure.pure a : Run α) :=
  ⟨fun _ _ => rfl, fun _ _ => rfl, fun _ _ _ _ => .inr rfl⟩

theorem throw (e : RunError) : Steady (MonadExcept.throw e : Run α) :=
  ⟨fun _ _ => rfl, fun _ _ => rfl, fun _ _ _ _ => .inr rfl⟩

theorem fail (e : RunError) : Steady (Run.fail e : Run α) := throw e

theorem compileError (k : ErrorKind) (msg : String) (span : Span) :
    Steady (Run.compileError k msg span : Run α) := throw _

theorem ofExcept (x : Except RunError α) : Steady (Run.ofExcept x) := by
  cases x with
  | error e => exact throw e
  | ok a => exact pure a

/-- A failure ends the run, whatever was to follow. -/
theorem bind_throw (e : RunError) (f : α → Run β) : Steady (MonadExcept.throw e >>= f) :=
  ⟨fun _ _ => rfl, fun _ _ => rfl, fun _ _ _ _ => .inr rfl⟩

theorem bind_compileError (k : ErrorKind) (msg : String) (span : Span) (f : α → Run β) :
    Steady (Run.compileError k msg span >>= f) := bind_throw _ f

theorem liftCompile (x : Except CompileError α) : Steady (Run.liftCompile x) := by
  cases x with
  | error e => exact throw _
  | ok a => exact pure a

theorem get : Steady (MonadState.get : Run Frame) :=
  ⟨fun _ _ => rfl, fun _ _ => rfl, fun _ _ _ _ => .inr rfl⟩

theorem set (fr' : Frame) : Steady (MonadStateOf.set fr' : Run PUnit) :=
  ⟨fun _ _ => rfl, fun _ _ => rfl, fun _ _ _ _ => .inr rfl⟩

theorem modifyFrame (f : Frame → Frame) : Steady (modify f : Run PUnit) :=
  ⟨fun _ _ => rfl, fun _ _ => rfl, fun _ _ _ _ => .inr rfl⟩

/-- A change of the machine that keeps the depth and the limit and does not read the limit. -/
theorem modifyMachine {g : Machine → Machine} (hdepth : ∀ m, (g m).depth = m.depth)
    (hlimit : ∀ m, (g m).maxDepth = m.maxDepth) (hg : ∀ m d, g (m.withLimit d) = (g m).withLimit d) :
    Steady (Run.modifyMachine g) := by
  have hrun : ∀ fr m, ((Run.modifyMachine g).run fr).run.run m = (.ok ((), fr), g m) :=
    fun _ _ => rfl
  refine ⟨fun fr m => ?_, fun fr m => ?_, fun fr m d' _ => .inr ?_⟩
  · rw [hrun, hdepth]
  · rw [hrun, hlimit]
  · rw [hrun, hrun, hg]

theorem bind {x : Run α} {f : α → Run β} (hx : Steady x) (hf : ∀ a, Steady (f a)) :
    Steady (x >>= f) := by
  refine ⟨fun fr m => ?_, fun fr m => ?_, fun fr m d' hd => ?_⟩
  all_goals
    rcases hx₁ : (x.run fr).run.run m with ⟨r₁, m₁⟩
    have hdepth₁ := hx.depth fr m
    have hlimit₁ := hx.limit fr m
    rw [hx₁] at hdepth₁ hlimit₁
    simp only [StateT.run_bind, ExceptT.run_bind, hx₁]
  · cases r₁ with
    | error e => exact hdepth₁
    | ok p => exact ((hf p.1).depth p.2 m₁).trans hdepth₁
  · cases r₁ with
    | error e => exact hlimit₁
    | ok p => exact ((hf p.1).limit p.2 m₁).trans hlimit₁
  · have hagree := hx.agree fr m d' hd
    rw [hx₁] at hagree
    rcases hagree with h | h
    · -- the first run stopped at its limit, and so does everything after it
      subst h
      exact .inl rfl
    · rw [h]
      cases r₁ with
      | error e => exact .inr rfl
      | ok p =>
        have := (hf p.1).agree p.2 m₁ d' (hlimit₁ ▸ hd)
        rwa [hlimit₁] at this

/-- Reading the machine, and going on in a way that does not depend on its limit. -/
theorem bind_machine {f : Machine → Run β} (hf : ∀ m, Steady (f m))
    (hlimit : ∀ m d, f (m.withLimit d) = f m) : Steady (Run.machine >>= f) := by
  refine ⟨fun fr m => (hf m).depth fr m, fun fr m => (hf m).limit fr m, fun fr m d' hd => ?_⟩
  have hrun : ∀ m₀, ((Run.machine >>= f).run fr).run.run m₀ = ((f m₀).run fr).run.run m₀ :=
    fun _ => rfl
  rw [hrun, hrun, hlimit]
  exact (hf m).agree fr m d' hd

/-- A failure caught by a handler that gives a limit failure back as it is. -/
theorem tryCatch {x : Run α} {h : RunError → Run α} (hx : Steady x) (hh : ∀ e, Steady (h e))
    (hstop : ∀ d fr m, (((h (.callDepth d)).run fr).run.run m).1 = .error (.callDepth d)) :
    Steady (tryCatch x h) := by
  refine ⟨fun fr m => ?_, fun fr m => ?_, fun fr m d' hd => ?_⟩
  all_goals
    simp only [Preserves.run_tryCatch]
    rcases hx₁ : (x.run fr).run.run m with ⟨r₁, m₁⟩
    have hdepth₁ := hx.depth fr m
    have hlimit₁ := hx.limit fr m
    rw [hx₁] at hdepth₁ hlimit₁
  · cases r₁ with
    | ok p => exact hdepth₁
    | error e => exact ((hh e).depth fr m₁).trans hdepth₁
  · cases r₁ with
    | ok p => exact hlimit₁
    | error e => exact ((hh e).limit fr m₁).trans hlimit₁
  · have hagree := hx.agree fr m d' hd
    rw [hx₁] at hagree
    rcases hagree with h₀ | h₁
    · -- the handler hands the limit failure on
      subst h₀
      exact .inl (hstop _ fr m₁)
    · rw [h₁]
      cases r₁ with
      | ok p => exact .inr rfl
      | error e =>
        have := (hh e).agree fr m₁ d' (hlimit₁ ▸ hd)
        rwa [hlimit₁] at this

theorem mapError {f : RunError → RunError} {x : Run α} (hx : Steady x)
    (hf : ∀ d, f (.callDepth d) = .callDepth d) : Steady (Run.mapError f x) :=
  tryCatch hx (fun _ => throw _) fun d _ _ => by
    show Except.error (f (.callDepth d)) = _
    rw [hf]

theorem forIn {γ : Type} {l : List γ} {b : β} {f : γ → β → Run (ForInStep β)}
    (hf : ∀ x b, Steady (f x b)) : Steady (ForIn.forIn l b f) := by
  induction l generalizing b with
  | nil => exact pure b
  | cons x l ih =>
    rw [List.forIn_cons]
    refine bind (hf x b) fun step => ?_
    cases step with
    | done b' => exact pure b'
    | yield b' => exact ih

theorem mapM {γ : Type} {l : List γ} {f : γ → Run α} (hf : ∀ x, Steady (f x)) :
    Steady (l.mapM f) := by
  induction l with
  | nil => exact pure []
  | cons x l ih =>
    rw [List.mapM_cons]
    exact bind (hf x) fun a => bind ih fun as => pure _

end Steady

/-! ## The interpreter's steps -/

section Steps

theorem declareLocal_steady (name : String) (ty : Ty) (v : Value) (span : Span) :
    Steady (declareLocal name ty v span) :=
  Steady.get.bind fun _ => (Steady.liftCompile _).bind fun _ => Steady.set _

/-- Allocating a region changes neither the depth nor the limit. -/
theorem alloc_steady (data : Array Scalar) : Steady (alloc data) := by
  unfold alloc
  refine Steady.bind_machine (fun m => ?_) fun _ _ => rfl
  dsimp only
  refine (Steady.modifyMachine ?_ ?_ ?_).bind fun _ => Steady.pure _ <;> intros <;> rfl

theorem zeroValue_steady (ty : Ty) : Steady (zeroValue ty) := by
  cases ty with
  | array e n => exact (alloc_steady _).bind fun _ => Steady.pure _
  | unbounded e => exact (alloc_steady _).bind fun _ => Steady.pure _
  | slice e => exact (alloc_steady _).bind fun _ => Steady.pure _
  | _ => exact Steady.pure _

theorem loadPlace_steady (p : Place) : Steady (loadPlace p) := by
  cases p with
  | slot i t => exact Steady.get.bind fun _ => Steady.pure _
  | lane k l e =>
    refine Steady.get.bind fun fr => ?_
    split <;> exact Steady.pure _
  | element r i e => exact Steady.bind_machine (fun _ => Steady.pure _) fun _ _ => rfl

theorem storePlace_steady (p : Place) (v : Value) : Steady (storePlace p v) := by
  unfold storePlace
  split
  · exact Steady.modifyFrame _
  · exact Steady.modifyFrame _
  · refine Steady.modifyMachine ?_ ?_ ?_ <;> intros <;> rfl
  · exact Steady.pure _

theorem callBuiltin_steady (f : FunctionRef) (args : List Value) (span : Span) :
    Steady (callBuiltin f args span) := by
  unfold callBuiltin
  refine (Steady.mapM fun _ => Steady.ofExcept _).bind fun xs => (Steady.ofExcept _).bind fun out => ?_
  dsimp only
  split
  · refine (Steady.modifyMachine ?_ ?_ ?_).bind fun _ => Steady.pure _ <;> intros <;> rfl
  · exact Steady.pure _

theorem elementIndex_steady (region offset : Nat) (position : Int) (span : Span) :
    Steady (elementIndex region offset position span) := by
  unfold elementIndex
  refine Steady.bind_machine (fun m => ?_) fun _ _ => rfl
  dsimp only
  split
  · exact Steady.throw _
  · exact Steady.pure _

theorem rangeBounds_steady (fr : Frame) (iter : Expr) : Steady (rangeBounds fr iter) := by
  unfold rangeBounds
  dsimp only
  split
  · split
    · split
      · exact Steady.bind_compileError _ _ _ _
      · split
        · exact Steady.pure _
        · exact Steady.pure _
        · exact Steady.compileError _ _ _
        · exact Steady.compileError _ _ _
    · exact Steady.compileError _ _ _
  · exact Steady.compileError _ _ _

theorem declareVars_steady (args : List Expr) (kws : List Keyword) (span : Span) :
    Steady (declareVars args kws span) := by
  unfold declareVars
  dsimp only
  split
  · exact Steady.bind_compileError _ _ _ _
  split
  · exact Steady.bind_compileError _ _ _ _
  refine (Steady.forIn fun kw _ => ?_).bind fun _ => Steady.pure _
  refine Steady.get.bind fun fr => (Steady.liftCompile _).bind fun ty => ?_
  split
  · exact Steady.bind_compileError _ _ _ _
  exact (Steady.liftCompile _).bind fun _ => (zeroValue_steady ty).bind fun v =>
    (declareLocal_steady _ _ _ _).bind fun _ => Steady.pure _

end Steps

/-! ## Every function of the interpreter -/

variable (lib : Library)

/-- Every function of the interpreter is steady at budget `fuel`. -/
structure SteadyAt (fuel : Nat) : Prop where
  eval : ∀ e, Steady (eval lib fuel e)
  evalCall : ∀ func args kws span, Steady (evalCall lib fuel func args kws span)
  evalArgs : ∀ as ps, Steady (evalArgs lib fuel as ps)
  callFunction : ∀ id values span, Steady (callFunction lib fuel id values span)
  execute : ∀ f sig values, Steady (execute lib fuel f sig values)
  execBlock : ∀ body, Steady (execBlock lib fuel body)
  execStmt : ∀ s, Steady (execStmt lib fuel s)
  assign : ∀ target value, Steady (assign lib fuel target value)
  place : ∀ target, Steady (place lib fuel target)
  execFor : ∀ target ts iter body, Steady (execFor lib fuel target ts iter body)
  forSteps : ∀ slot stop kind span body, Steady (forSteps lib fuel slot stop kind span body)
  execWhile : ∀ test body, Steady (execWhile lib fuel test body)
  execReturn : ∀ value span, Steady (execReturn lib fuel value span)

/-- With no budget left every function fails at once. -/
theorem steadyAt_zero : SteadyAt lib 0 := by
  refine ⟨?_, ?_, ?_, ?_, ?_, ?_, ?_, ?_, ?_, ?_, ?_, ?_, ?_⟩ <;>
    intros <;> simp only [eval, evalCall, evalArgs, callFunction, execute, execBlock, execStmt,
      assign, place, execFor, forSteps, execWhile, execReturn] <;> exact Steady.throw _

variable {lib} {fuel : Nat}

/-- A compile error gets a position, and a limit failure passes unchanged. -/
theorem atIfUnknown_callDepth (span : Span) (d : Nat) :
    (RunError.callDepth d).atIfUnknown span = .callDepth d := rfl

theorem eval_steady (ih : SteadyAt lib fuel) (e : Expr) : Steady (eval lib (fuel + 1) e) := by
  simp only [eval]
  refine Steady.mapError ?_ (atIfUnknown_callDepth _)
  cases e with
  | const lit span => exact Steady.ofExcept _
  | name n span =>
    refine Steady.get.bind fun _ => (Steady.liftCompile _).bind fun r => ?_
    split
    · exact Steady.get.bind fun _ => Steady.pure _
    · exact Steady.pure _
    · exact Steady.compileError _ _ _
    · exact Steady.compileError _ _ _
  | binary op l r span =>
    exact (ih.eval l).bind fun _ => (ih.eval r).bind fun _ => Steady.ofExcept _
  | compare op l r span =>
    exact (ih.eval l).bind fun _ => (ih.eval r).bind fun _ => Steady.ofExcept _
  | unary op x span => exact (ih.eval x).bind fun _ => Steady.ofExcept _
  | logic op l r span =>
    refine (ih.eval l).bind fun _ => (Steady.ofExcept _).bind fun left => ?_
    split
    · exact (Steady.pure _).bind fun _ => Steady.pure _
    · exact (Steady.pure _).bind fun _ => Steady.pure _
    · exact (ih.eval r).bind fun _ => (Steady.ofExcept _).bind fun _ => Steady.pure _
  | call func args kws span => exact ih.evalCall func args kws span
  | index value i span =>
    refine (ih.eval value).bind fun _ => (ih.eval i).bind fun _ => (Steady.ofExcept _).bind fun _ => ?_
    split
    · exact (Steady.ofExcept _).bind fun _ => Steady.pure _
    · exact (elementIndex_steady _ _ _ _).bind fun _ =>
        Steady.bind_machine (fun _ => Steady.pure _) fun _ _ => rfl
    · exact Steady.compileError _ _ _
  | slice value lo hi span =>
    refine (ih.eval value).bind fun _ => ?_
    split
    · exact Steady.bind_compileError _ _ _ _
    split
    · split
      · split
        · refine (ih.eval _).bind fun _ => (Steady.ofExcept _).bind fun lower => ?_
          split
          · exact Steady.bind_machine (fun _ => Steady.bind_throw _ _) fun _ _ => rfl
          · exact Steady.pure _
        · simp only [pure_bind]
          split
          · exact Steady.bind_machine (fun _ => Steady.bind_throw _ _) fun _ _ => rfl
          · exact Steady.pure _
      · exact Steady.compileError _ _ _
    · exact Steady.compileError _ _ _
  | unsupported c span => exact Steady.compileError _ _ _

theorem evalCall_steady (ih : SteadyAt lib fuel) (func : Expr) (args : List Expr)
    (kws : List Keyword) (span : Span) : Steady (evalCall lib (fuel + 1) func args kws span) := by
  simp only [evalCall]
  split
  · refine Steady.get.bind fun _ => (Steady.liftCompile _).bind fun r => ?_
    split
    · exact Steady.bind_compileError _ _ _ _
    simp only [pure_bind]
    split
    · split
      · exact Steady.bind_compileError _ _ _ _
      split
      · exact Steady.bind_compileError _ _ _ _
      refine (ih.evalArgs _ _).bind fun values => ?_
      split
      · exact callBuiltin_steady _ _ _
      · exact ih.callFunction _ _ _
    · exact Steady.compileError _ _ _
    · split
      · split
        · exact Steady.bind_compileError _ _ _ _
        exact (ih.eval _).bind fun _ => Steady.ofExcept _
      · exact Steady.compileError _ _ _
    · exact Steady.compileError _ _ _
    · exact Steady.compileError _ _ _
    · exact Steady.compileError _ _ _
  · exact Steady.compileError _ _ _

theorem evalArgs_steady (ih : SteadyAt lib fuel) (as : List Expr) (ps : List Ty) :
    Steady (evalArgs lib (fuel + 1) as ps) := by
  cases as with
  | nil => exact Steady.pure _
  | cons a as =>
    cases ps with
    | nil => exact Steady.pure _
    | cons p ps =>
      exact (ih.eval a).bind fun _ => (Steady.ofExcept _).bind fun _ =>
        (ih.evalArgs as ps).bind fun _ => Steady.pure _

/-! A call checks the limit, runs the body one level deeper, and comes back up however the body
ends. -/

section Call

variable {fr : Frame} {m : Machine} {id : Nat} {values : List Value} {span : Span}

theorem run_modifyMachine_bind {g : Machine → Machine} {k : Unit → Run β} :
    ((Run.modifyMachine g >>= k).run fr).run.run m = ((k ()).run fr).run.run (g m) := rfl

theorem run_get_bind {k : Frame → Run β} :
    ((MonadState.get >>= k).run fr).run.run m = ((k fr).run fr).run.run m := rfl

theorem run_set_bind {fr' : Frame} {k : PUnit → Run β} :
    ((MonadStateOf.set fr' >>= k).run fr).run.run m = ((k ⟨⟩).run fr').run.run m := rfl

theorem run_tryCatch_bind_ok {x : Run α} {h : RunError → Run α} {k : α → Run β} {a : α}
    {fr₁ : Frame} {m₁ : Machine} (hx : (x.run fr).run.run m = (.ok (a, fr₁), m₁)) :
    ((tryCatch x h >>= k).run fr).run.run m = ((k a).run fr₁).run.run m₁ := by
  simp only [StateT.run_bind, ExceptT.run_bind, Preserves.run_tryCatch, hx]
  rfl

theorem run_tryCatch_bind_error {x : Run α} {h : RunError → Run α} {k : α → Run β}
    {e : RunError} {m₁ : Machine} (hx : (x.run fr).run.run m = (.error e, m₁)) :
    ((tryCatch x h >>= k).run fr).run.run m = ((h e >>= k).run fr).run.run m₁ := by
  simp only [StateT.run_bind, ExceptT.run_bind, Preserves.run_tryCatch, hx]

theorem run_bind_ok {x : Run α} {k : α → Run β} {a : α} {fr₁ : Frame} {m₁ : Machine}
    (h : (x.run fr).run.run m = (.ok (a, fr₁), m₁)) :
    ((x >>= k).run fr).run.run m = ((k a).run fr₁).run.run m₁ := by
  simp only [StateT.run_bind, ExceptT.run_bind, h]
  rfl

/-- The frame a call's body starts in. -/
def entryFrame (lib : Library) (sig : Signature) : Frame :=
  { scope := { globals := lib.globals }, slots := #[], ret := sig.ret }

/-- A call at the limit fails at once. -/
theorem callFunction_run_of_limit (h : m.maxDepth ≤ m.depth) :
    ((callFunction lib (fuel + 1) id values span).run fr).run.run m =
      (.error (.callDepth m.maxDepth), m) := by
  simp only [callFunction]
  show ((if m.depth ≥ m.maxDepth then _ else _ : Run Value).run fr).run.run m = _
  rw [if_pos h]
  rfl

theorem callFunction_run_of_missing (h : m.depth < m.maxDepth) (hdef : lib.definition? id = none) :
    ((callFunction lib (fuel + 1) id values span).run fr).run.run m =
      (.error (.missingBody ((lib.name? id).getD "<unknown>")), m) := by
  simp only [callFunction]
  show ((if m.depth ≥ m.maxDepth then _ else _ : Run Value).run fr).run.run m = _
  rw [if_neg (by omega)]
  simp only [hdef]
  rfl

/-- Below the limit, a call runs the body one level deeper from a fresh frame, and comes back
to the caller's depth and frame with the body's value or its failure, a compile error marked
with the function. -/
theorem callFunction_run (h : m.depth < m.maxDepth) {f : FunctionDef} {sig : Signature}
    (hdef : lib.definition? id = some (f, sig)) :
    ((callFunction lib (fuel + 1) id values span).run fr).run.run m =
      match ((execute lib fuel f sig values).run (entryFrame lib sig)).run.run
          { m with depth := m.depth + 1 } with
      | (.ok (v, _), m₂) => (.ok (v, fr), { m₂ with depth := m₂.depth - 1 })
      | (.error (.compile c), m₂) => (.error (.compile (c.inFunction f)), { m₂ with depth := m₂.depth - 1 })
      | (.error e, m₂) => (.error e, { m₂ with depth := m₂.depth - 1 }) := by
  simp only [callFunction]
  show ((if m.depth ≥ m.maxDepth then _ else _ : Run Value).run fr).run.run m = _
  rw [if_neg (by omega)]
  simp only [hdef]
  rcases hE : ((execute lib fuel f sig values).run (entryFrame lib sig)).run.run
    { m with depth := m.depth + 1 } with ⟨r, m₂⟩
  simp only [entryFrame] at hE
  rw [run_modifyMachine_bind, run_get_bind, run_set_bind]
  cases r with
  | ok p =>
    rw [run_tryCatch_bind_ok hE, run_modifyMachine_bind, run_set_bind]
    rfl
  | error e =>
    rw [run_tryCatch_bind_error hE]
    cases e <;> rfl

/-- A call that runs its body ends one level above where the body ended. -/
theorem callFunction_machine (h : m.depth < m.maxDepth) {f : FunctionDef} {sig : Signature}
    (hdef : lib.definition? id = some (f, sig)) :
    (((callFunction lib (fuel + 1) id values span).run fr).run.run m).2 =
      let m₂ := (((execute lib fuel f sig values).run (entryFrame lib sig)).run.run
        { m with depth := m.depth + 1 }).2
      { m₂ with depth := m₂.depth - 1 } := by
  rw [callFunction_run h hdef]
  rcases ((execute lib fuel f sig values).run (entryFrame lib sig)).run.run
    { m with depth := m.depth + 1 } with ⟨r, m₂⟩
  cases r with
  | ok p => rfl
  | error e => cases e <;> rfl

end Call

theorem callFunction_steady (ih : SteadyAt lib fuel) (id : Nat) (values : List Value)
    (span : Span) : Steady (callFunction lib (fuel + 1) id values span) := by
  refine ⟨fun fr m => ?_, fun fr m => ?_, fun fr m d' hd => ?_⟩
  · -- the body ends at the depth it started from, one below the call's
    rcases Nat.lt_or_ge m.depth m.maxDepth with h | h
    · rcases hdef : lib.definition? id with _ | ⟨f, sig⟩
      · rw [callFunction_run_of_missing h hdef]
      · have hbody := (ih.execute f sig values).depth (entryFrame lib sig)
          { m with depth := m.depth + 1 }
        rw [callFunction_machine h hdef]
        simp only at hbody ⊢
        omega
    · rw [callFunction_run_of_limit h]
  · rcases Nat.lt_or_ge m.depth m.maxDepth with h | h
    · rcases hdef : lib.definition? id with _ | ⟨f, sig⟩
      · rw [callFunction_run_of_missing h hdef]
      · have hbody := (ih.execute f sig values).limit (entryFrame lib sig)
          { m with depth := m.depth + 1 }
        rw [callFunction_machine h hdef]
        exact hbody
    · rw [callFunction_run_of_limit h]
  · rcases Nat.lt_or_ge m.depth m.maxDepth with h | h
    · have h' : (m.withLimit d').depth < (m.withLimit d').maxDepth := by
        simp only [Machine.withLimit_depth, Machine.withLimit_maxDepth]
        omega
      rcases hdef : lib.definition? id with _ | ⟨f, sig⟩
      · rw [callFunction_run_of_missing h hdef, callFunction_run_of_missing h' hdef]
        exact .inr rfl
      · -- both calls run the body, one level deeper, from machines that differ in their limits
        rw [callFunction_run h hdef, callFunction_run h' hdef]
        have hlift : { m.withLimit d' with depth := (m.withLimit d').depth + 1 } =
            ({ m with depth := m.depth + 1 } : Machine).withLimit d' := rfl
        rw [hlift]
        have hagree := (ih.execute f sig values).agree (entryFrame lib sig)
          { m with depth := m.depth + 1 } d' hd
        rcases hE : ((execute lib fuel f sig values).run (entryFrame lib sig)).run.run
          { m with depth := m.depth + 1 } with ⟨r, m₂⟩
        rw [hE] at hagree
        rcases hagree with hstop | hsame
        · -- the body stopped at the limit, and the call hands that on
          simp only at hstop
          subst hstop
          exact .inl rfl
        · rw [hsame]
          right
          cases r with
          | ok p => rfl
          | error e => cases e <;> rfl
    · rw [callFunction_run_of_limit h]
      exact .inl rfl

theorem execute_steady (ih : SteadyAt lib fuel) (f : FunctionDef) (sig : Signature)
    (values : List Value) : Steady (execute lib (fuel + 1) f sig values) := by
  simp only [execute]
  refine (Steady.forIn fun _ _ => ?_).bind fun _ => (ih.execBlock f.body).bind fun fl => ?_
  · exact (Steady.ofExcept _).bind fun _ => (declareLocal_steady _ _ _ _).bind fun _ =>
      Steady.pure _
  · split
    · exact Steady.pure _
    · split
      · exact Steady.pure _
      · exact Steady.compileError _ _ _

theorem place_steady (ih : SteadyAt lib fuel) (target : Expr) :
    Steady (place lib (fuel + 1) target) := by
  simp only [place]
  split
  · refine Steady.get.bind fun _ => (Steady.liftCompile _).bind fun r => ?_
    split
    · exact Steady.pure _
    · exact Steady.compileError _ _ _
  · exact Steady.compileError _ _ _
  · refine (ih.eval _).bind fun _ => (ih.eval _).bind fun _ => (Steady.ofExcept _).bind fun _ =>
      Steady.get.bind fun _ => ?_
    split
    · exact (Steady.ofExcept _).bind fun _ => Steady.pure _
    · exact Steady.compileError _ _ _
    · split
      · exact (elementIndex_steady _ _ _ _).bind fun _ => Steady.pure _
      · exact Steady.compileError _ _ _
    · exact Steady.compileError _ _ _
  · exact Steady.compileError _ _ _

theorem assign_steady (ih : SteadyAt lib fuel) (target value : Expr) :
    Steady (assign lib (fuel + 1) target value) := by
  simp only [assign]
  refine Steady.get.bind fun _ => ?_
  split
  on_goal 1 => split
  · -- an unseen name is declared with the value's type
    refine (ih.eval _).bind fun rhs => ?_
    split
    · exact Steady.bind_compileError _ _ _ _
    all_goals
      simp only [pure_bind]
      exact (Steady.ofExcept _).bind fun _ => (declareLocal_steady _ _ _ _).bind fun _ =>
        Steady.pure _
  -- the general path: the value, then the place, then the store
  all_goals
    refine (ih.eval _).bind fun _ => (ih.place _).bind fun p => ?_
    split
    · exact Steady.bind_compileError _ _ _ _
    · exact (Steady.ofExcept _).bind fun _ => storePlace_steady _ _

theorem execStmt_steady (ih : SteadyAt lib fuel) (s : Stmt) :
    Steady (execStmt lib (fuel + 1) s) := by
  cases s <;> simp only [execStmt]
  case assign t v _ => exact (ih.assign t v).bind fun _ => Steady.pure _
  case augAssign t op v _ =>
    exact (ih.place t).bind fun p => (loadPlace_steady p).bind fun _ => (ih.eval v).bind fun _ =>
      (Steady.ofExcept _).bind fun _ => (Steady.ofExcept _).bind fun _ =>
        (storePlace_steady _ _).bind fun _ => Steady.pure _
  case eval e _ =>
    split
    · exact Steady.pure _
    · refine Steady.get.bind fun _ => ?_
      split
      · exact (declareVars_steady _ _ _).bind fun _ => Steady.pure _
      · exact (ih.eval _).bind fun _ => Steady.pure _
    · exact (ih.eval _).bind fun _ => Steady.pure _
  case branch test body orelse _ =>
    exact (ih.eval test).bind fun _ => (Steady.ofExcept _).bind fun _ => ih.execBlock _
  case forLoop target ts iter body _ => exact ih.execFor target ts iter body
  case whileLoop test body _ => exact ih.execWhile test body
  case ret value span => exact ih.execReturn value span
  case pass _ => exact Steady.pure _
  case unsupported c span => exact Steady.compileError _ _ _

theorem execBlock_steady (ih : SteadyAt lib fuel) (body : List Stmt) :
    Steady (execBlock lib (fuel + 1) body) := by
  cases body with
  | nil => exact Steady.pure _
  | cons s rest =>
    simp only [execBlock]
    refine (Steady.mapError (ih.execStmt s) (atIfUnknown_callDepth _)).bind fun fl => ?_
    split
    · exact Steady.pure _
    · exact ih.execBlock rest

theorem execWhile_steady (ih : SteadyAt lib fuel) (test : Expr) (body : List Stmt) :
    Steady (execWhile lib (fuel + 1) test body) := by
  simp only [execWhile]
  refine (ih.eval test).bind fun _ => (Steady.ofExcept _).bind fun _ => ?_
  split
  · exact Steady.pure _
  · refine (ih.execBlock body).bind fun fl => ?_
    split
    · exact Steady.pure _
    · exact ih.execWhile test body

theorem execReturn_steady (ih : SteadyAt lib fuel) (value : Option Expr) (span : Span) :
    Steady (execReturn lib (fuel + 1) value span) := by
  simp only [execReturn]
  refine Steady.get.bind fun _ => ?_
  split
  · exact Steady.pure _
  · exact Steady.compileError _ _ _
  · exact Steady.compileError _ _ _
  · refine (ih.eval _).bind fun _ => ?_
    split
    · exact Steady.bind_compileError _ _ _ _
    · exact (Steady.ofExcept _).bind fun _ => Steady.pure _

theorem forSteps_steady (ih : SteadyAt lib fuel) (slot : Nat) (stop : Int) (kind : ScalarType)
    (span : Span) (body : List Stmt) :
    Steady (forSteps lib (fuel + 1) slot stop kind span body) := by
  simp only [forSteps]
  refine Steady.get.bind fun _ => (Steady.ofExcept _).bind fun _ => ?_
  split
  · exact Steady.pure _
  refine (ih.execBlock body).bind fun fl => ?_
  split
  · exact Steady.pure _
  exact Steady.get.bind fun _ => (Steady.ofExcept _).bind fun _ =>
    (Steady.modifyFrame _).bind fun _ => ih.forSteps _ _ _ _ _

theorem execFor_steady (ih : SteadyAt lib fuel) (target : String) (ts : Span) (iter : Expr)
    (body : List Stmt) : Steady (execFor lib (fuel + 1) target ts iter body) := by
  simp only [execFor]
  refine Steady.get.bind fun fr => (rangeBounds_steady fr iter).bind fun bounds =>
    (Steady.liftCompile _).bind fun _ => ?_
  -- once the counter's type is known: the counter is declared, then the steps run
  have hkind : ∀ (start stopV : Value) (s : ScalarType), Steady (do
      let initial ← Run.ofExcept (castValue start (.scalar s) iter.span)
      declareLocal target (.scalar s) initial ts
      let slot := (← get).slots.size - 1
      let stopValue ← Run.ofExcept (castValue stopV (.scalar s) bounds.2.span)
      let stopScalar ← Run.ofExcept (scalarOf stopValue bounds.2.span)
      forSteps lib fuel slot stopScalar.toInt s iter.span body) := fun start stopV s =>
    (Steady.ofExcept _).bind fun _ => (declareLocal_steady _ _ _ _).bind fun _ =>
      Steady.get.bind fun _ => (Steady.ofExcept _).bind fun _ => (Steady.ofExcept _).bind fun _ =>
        ih.forSteps _ _ _ _ _
  split
  · refine (ih.eval _).bind fun start => (ih.eval _).bind fun stopV => ?_
    split
    · split
      · simp only [pure_bind]
        exact hkind start stopV _
      · exact Steady.bind_compileError _ _ _ _
    · exact Steady.bind_compileError _ _ _ _
  · simp only [pure_bind]
    refine (ih.eval _).bind fun stopV => ?_
    split
    · split
      · exact hkind _ stopV _
      · exact Steady.bind_compileError _ _ _ _
    · exact Steady.bind_compileError _ _ _ _

/-- Every function of the interpreter is steady at every budget: by induction on the budget,
each function at `fuel + 1` only calls functions at `fuel`. -/
theorem steadyAt (lib : Library) : ∀ fuel, SteadyAt lib fuel
  | 0 => steadyAt_zero lib
  | fuel + 1 =>
    have ih := steadyAt lib fuel
    { eval := eval_steady ih
      evalCall := evalCall_steady ih
      evalArgs := evalArgs_steady ih
      callFunction := callFunction_steady ih
      execute := execute_steady ih
      execBlock := execBlock_steady ih
      execStmt := execStmt_steady ih
      assign := assign_steady ih
      place := place_steady ih
      execFor := execFor_steady ih
      forSteps := forSteps_steady ih
      execWhile := execWhile_steady ih
      execReturn := execReturn_steady ih }

/-! ## Host calls -/

/-- Binding host arguments neither reads nor changes the limit. -/
theorem foldl_bindArg_withLimit (l : List (Arg × Ty)) (vs : List Value) (m : Machine)
    (rs : List Nat) (d : Nat) :
    l.foldl bindArg (vs, m.withLimit d, rs) =
      ((l.foldl bindArg (vs, m, rs)).1, (l.foldl bindArg (vs, m, rs)).2.1.withLimit d,
        (l.foldl bindArg (vs, m, rs)).2.2) := by
  induction l generalizing vs m rs with
  | nil => rfl
  | cons ap l ih =>
    obtain ⟨a, p⟩ := ap
    cases a with
    | scalar x => exact ih _ _ _
    | buffer b => exact ih _ { m with regions := m.regions.push b.data } _

theorem foldl_bindArg_maxDepth (l : List (Arg × Ty)) (vs : List Value) (m : Machine)
    (rs : List Nat) : (l.foldl bindArg (vs, m, rs)).2.1.maxDepth = m.maxDepth := by
  induction l generalizing vs m rs with
  | nil => rfl
  | cons ap l ih =>
    obtain ⟨a, p⟩ := ap
    cases a with
    | scalar x => exact ih _ _ _
    | buffer b => exact ih _ { m with regions := m.regions.push b.data } _

/-- A host call with limit `d'` returns what one with a lower limit `d` returns, with the same
buffers and output, unless the call with limit `d` failed at its limit. -/
theorem call_agree (lib : Library) (id : Nat) (args : List Arg) {d d' : Nat} (h : d ≤ d') :
    call lib id args d' = call lib id args d ∨ (call lib id args d).result = .error (.callDepth d) := by
  unfold call
  split
  · exact .inl rfl
  split
  · exact .inl rfl
  rename_i sig _ _
  -- the arguments are bound alike, into machines that differ only in their limits
  have hbind := foldl_bindArg_withLimit (args.zip sig.params) [] ({ maxDepth := d } : Machine) [] d'
  have hlimit := foldl_bindArg_maxDepth (args.zip sig.params) [] ({ maxDepth := d } : Machine) []
  simp only [bindArgs]
  rw [show ({ maxDepth := d' } : Machine) = ({ maxDepth := d } : Machine).withLimit d' from rfl, hbind]
  rcases hb : (args.zip sig.params).foldl bindArg ([], ({ maxDepth := d } : Machine), []) with
    ⟨values, m₀, regions⟩
  rw [hb] at hlimit
  simp only at hlimit ⊢
  have hagree := ((steadyAt lib stepBudget).callFunction id values Span.unknown).agree
    { scope := { globals := lib.globals }, slots := #[], ret := .void } m₀ d' (hlimit ▸ h)
  rcases hrun : ((callFunction lib stepBudget id values Span.unknown).run
    { scope := { globals := lib.globals }, slots := #[], ret := .void }).run.run m₀ with ⟨r, m₁⟩
  rw [hrun] at hagree
  rcases hagree with hstop | hsame
  · -- the lower limit stopped the run
    simp only [hlimit] at hstop
    subst hstop
    exact .inr rfl
  · rw [hsame]
    left
    cases r with
    | error e => rfl
    | ok p => rfl

/-- A higher call-depth limit never changes a successful host call: the result, the buffers and
the bytes written are the same. The two calls differ only where the lower limit stops a call,
and then the call with the lower limit fails with `callDepth`. Every dialect call, whether it
returns or fails, leaves the depth where it found it. -/
theorem higher_limit_keeps_run :
    (∀ (lib : Library) (id : Nat) (args : List Arg) (d d' : Nat), d ≤ d' →
      ∀ r, (call lib id args d).result = .ok r → call lib id args d' = call lib id args d) ∧
    (∀ (lib : Library) (id : Nat) (args : List Arg) (d d' : Nat), d ≤ d' →
      call lib id args d' = call lib id args d ∨
        (call lib id args d).result = .error (.callDepth d)) ∧
    (∀ (lib : Library) (fuel id : Nat) (values : List Value) (span : Span) (fr : Frame)
      (m : Machine), (((callFunction lib fuel id values span).run fr).run.run m).2.depth = m.depth) := by
  refine ⟨fun lib id args d d' h r hok => ?_, fun lib id args d d' h => call_agree lib id args h,
    fun lib fuel id values span fr m => ((steadyAt lib fuel).callFunction id values span).depth fr m⟩
  rcases call_agree lib id args h with heq | hstop
  · exact heq
  · rw [hok] at hstop
    cases hstop

end Interpreter

end TypedJit

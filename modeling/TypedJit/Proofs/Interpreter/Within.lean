import TypedJit.Proofs.Interpreter.Preserves

/-!
# Runs that fail only in expected ways
-/

namespace TypedJit.Interpreter

/-- Every failing run of `x` from `fr` and `m` fails with an error in `E`, and every successful
one ends in `post`. -/
def Within {α : Type} (x : Run α) (fr : Frame) (m : Machine) (E : RunError → Prop)
    (post : α → Frame → Machine → Prop) : Prop :=
  ∀ r m', (x.run fr).run.run m = (r, m') →
    (∀ e, r = .error e → E e) ∧ ∀ a fr', r = .ok (a, fr') → post a fr' m'

namespace Within

variable {α β : Type} {fr : Frame} {m : Machine} {E : RunError → Prop}
  {P : α → Frame → Machine → Prop} {Q : β → Frame → Machine → Prop}

theorem pure {a : α} (h : P a fr m) : Within (Pure.pure a) fr m E P := by
  intro r m' hrun
  cases hrun
  exact ⟨(fun _ h' => nomatch h'), fun _ _ h' => by cases h'; exact h⟩

theorem bind {x : Run α} {f : α → Run β} (hx : Within x fr m E P)
    (hf : ∀ a fr₁ m₁, P a fr₁ m₁ → Within (f a) fr₁ m₁ E Q) : Within (x >>= f) fr m E Q := by
  intro r m' hrun
  rcases hx₁ : (x.run fr).run.run m with ⟨r₁, m₁⟩
  obtain ⟨herr₁, hpost₁⟩ := hx r₁ m₁ hx₁
  simp only [StateT.run_bind, ExceptT.run_bind, hx₁] at hrun
  cases r₁ with
  | error e =>
    cases hrun
    exact ⟨(fun _ h => by cases h; exact herr₁ e rfl), fun _ _ h => nomatch h⟩
  | ok p => exact hf p.1 p.2 m₁ (hpost₁ p.1 p.2 rfl) r m' hrun

theorem mono {E' : RunError → Prop} {Q' : α → Frame → Machine → Prop} {x : Run α}
    (hx : Within x fr m E P) (hE : ∀ e, E e → E' e)
    (hPQ : ∀ a fr' m', P a fr' m' → Q' a fr' m') : Within x fr m E' Q' := by
  intro r m' hrun
  obtain ⟨herr, hpost⟩ := hx r m' hrun
  exact ⟨fun e h => hE e (herr e h), fun a fr' h => hPQ a fr' m' (hpost a fr' h)⟩

theorem throw {e : RunError} (he : E e) : Within (MonadExcept.throw e : Run α) fr m E P := by
  intro r m' hrun
  cases hrun
  exact ⟨(fun _ h => by cases h; exact he), fun _ _ h => nomatch h⟩

theorem compileError {k : ErrorKind} {msg : String} {span : Span}
    (he : E (.compile ⟨k, msg, span, none⟩)) : Within (Run.compileError k msg span : Run α) fr m E P :=
  throw he

theorem ofExcept {x : Except RunError α} (hE : ∀ e, x = .error e → E e)
    (h : ∀ a, x = .ok a → P a fr m) : Within (Run.ofExcept x) fr m E P := by
  cases x with
  | error e => exact throw (hE e rfl)
  | ok a => exact pure (h a rfl)

theorem liftCompile {x : Except CompileError α} (hE : ∀ c, x = .error c → E (.compile c))
    (h : ∀ a, x = .ok a → P a fr m) : Within (Run.liftCompile x) fr m E P := by
  cases x with
  | error c => exact throw (hE c rfl)
  | ok a => exact pure (h a rfl)

theorem get {P : Frame → Frame → Machine → Prop} (h : P fr fr m) :
    Within (MonadState.get : Run Frame) fr m E P := by
  intro r m' hrun
  cases hrun
  exact ⟨(fun _ h' => nomatch h'), fun _ _ h' => by cases h'; exact h⟩

theorem set {fr' : Frame} {P : PUnit → Frame → Machine → Prop} (h : P ⟨⟩ fr' m) :
    Within (MonadStateOf.set fr' : Run PUnit) fr m E P := by
  intro r m' hrun
  cases hrun
  exact ⟨(fun _ h' => nomatch h'), fun _ _ h' => by cases h'; exact h⟩

theorem modifyFrame {f : Frame → Frame} {P : PUnit → Frame → Machine → Prop} (h : P ⟨⟩ (f fr) m) :
    Within (modify f : Run PUnit) fr m E P := by
  intro r m' hrun
  cases hrun
  exact ⟨(fun _ h' => nomatch h'), fun _ _ h' => by cases h'; exact h⟩

theorem machine {P : Machine → Frame → Machine → Prop} (h : P m fr m) :
    Within Run.machine fr m E P := by
  intro r m' hrun
  cases hrun
  exact ⟨(fun _ h' => nomatch h'), fun _ _ h' => by cases h'; exact h⟩

theorem modifyMachine {g : Machine → Machine} {P : Unit → Frame → Machine → Prop}
    (h : P () fr (g m)) : Within (Run.modifyMachine g) fr m E P := by
  intro r m' hrun
  cases hrun
  exact ⟨(fun _ h' => nomatch h'), fun _ _ h' => by cases h'; exact h⟩

/-- A failure of the protected run is sorted again by the handler, which starts from the frame
the protected run started from. -/
theorem tryCatch {E' : RunError → Prop} {x : Run α} {h : RunError → Run α}
    (hx : Within x fr m E' P) (hh : ∀ e m₁, E' e → Within (h e) fr m₁ E P) :
    Within (tryCatch x h) fr m E P := by
  intro r m' hrun
  rw [Preserves.run_tryCatch] at hrun
  rcases hx₁ : (x.run fr).run.run m with ⟨r₁, m₁⟩
  obtain ⟨herr₁, hpost₁⟩ := hx r₁ m₁ hx₁
  rw [hx₁] at hrun
  cases r₁ with
  | ok p =>
    cases hrun
    exact ⟨(fun _ h => nomatch h), hpost₁⟩
  | error e => exact hh e m₁ (herr₁ e rfl) r m' hrun

theorem mapError {E' : RunError → Prop} {f : RunError → RunError} {x : Run α}
    (hx : Within x fr m E' P) (hf : ∀ e, E' e → E (f e)) : Within (Run.mapError f x) fr m E P :=
  tryCatch hx fun e _ he => throw (hf e he)

/-! Steps that only read the state, or fail, are passed over by the lemmas below. -/

section Reads

theorem bind_get {f : Frame → Run β} (h : Within (f fr) fr m E Q) :
    Within (MonadState.get >>= f) fr m E Q :=
  bind (get (P := fun a fr' m' => a = fr ∧ fr' = fr ∧ m' = m) ⟨rfl, rfl, rfl⟩)
    fun _ _ _ hp => by obtain ⟨rfl, rfl, rfl⟩ := hp; exact h

theorem bind_machine {f : Machine → Run β} (h : Within (f m) fr m E Q) :
    Within (Run.machine >>= f) fr m E Q :=
  bind (machine (P := fun a fr' m' => a = m ∧ fr' = fr ∧ m' = m) ⟨rfl, rfl, rfl⟩)
    fun _ _ _ hp => by obtain ⟨rfl, rfl, rfl⟩ := hp; exact h

theorem bind_set {fr' : Frame} {f : PUnit → Run β} (h : Within (f ⟨⟩) fr' m E Q) :
    Within (MonadStateOf.set fr' >>= f) fr m E Q :=
  bind (set (P := fun _ fr'' m' => fr'' = fr' ∧ m' = m) ⟨rfl, rfl⟩)
    fun _ _ _ hp => by obtain ⟨rfl, rfl⟩ := hp; exact h

theorem bind_modifyFrame {g : Frame → Frame} {f : PUnit → Run β} (h : Within (f ⟨⟩) (g fr) m E Q) :
    Within (modify g >>= f) fr m E Q :=
  bind (modifyFrame (P := fun _ fr' m' => fr' = g fr ∧ m' = m) ⟨rfl, rfl⟩)
    fun _ _ _ hp => by obtain ⟨rfl, rfl⟩ := hp; exact h

theorem bind_modifyMachine {g : Machine → Machine} {f : Unit → Run β}
    (h : Within (f ()) fr (g m) E Q) : Within (Run.modifyMachine g >>= f) fr m E Q :=
  bind (modifyMachine (P := fun _ fr' m' => fr' = fr ∧ m' = g m) ⟨rfl, rfl⟩)
    fun _ _ _ hp => by obtain ⟨rfl, rfl⟩ := hp; exact h

theorem bind_ofExcept {x : Except RunError α} {f : α → Run β} (hE : ∀ e, x = .error e → E e)
    (h : ∀ a, x = .ok a → Within (f a) fr m E Q) : Within (Run.ofExcept x >>= f) fr m E Q :=
  bind (ofExcept (P := fun a fr' m' => x = .ok a ∧ fr' = fr ∧ m' = m) hE fun a ha => ⟨ha, rfl, rfl⟩)
    fun _ _ _ hp => by obtain ⟨ha, rfl, rfl⟩ := hp; exact h _ ha

theorem bind_liftCompile {x : Except CompileError α} {f : α → Run β}
    (hE : ∀ c, x = .error c → E (.compile c)) (h : ∀ a, x = .ok a → Within (f a) fr m E Q) :
    Within (Run.liftCompile x >>= f) fr m E Q :=
  bind (liftCompile (P := fun a fr' m' => x = .ok a ∧ fr' = fr ∧ m' = m) hE
    fun a ha => ⟨ha, rfl, rfl⟩) fun _ _ _ hp => by obtain ⟨ha, rfl, rfl⟩ := hp; exact h _ ha

theorem ofExcept_ok {x : Except RunError α} {a : α} (hx : x = .ok a) (h : P a fr m) :
    Within (Run.ofExcept x) fr m E P :=
  ofExcept (fun _ he => by rw [hx] at he; cases he) fun _ ha => by rw [hx] at ha; cases ha; exact h

theorem bind_ofExcept_ok {x : Except RunError α} {a : α} {f : α → Run β} (hx : x = .ok a)
    (h : Within (f a) fr m E Q) : Within (Run.ofExcept x >>= f) fr m E Q :=
  bind_ofExcept (fun _ he => by rw [hx] at he; cases he) fun _ ha => by rw [hx] at ha; cases ha; exact h

theorem bind_liftCompile_ok {x : Except CompileError α} {a : α} {f : α → Run β} (hx : x = .ok a)
    (h : Within (f a) fr m E Q) : Within (Run.liftCompile x >>= f) fr m E Q :=
  bind_liftCompile (fun _ he => by rw [hx] at he; cases he) fun _ ha => by
    rw [hx] at ha; cases ha; exact h

theorem bind_throw {e : RunError} {f : α → Run β} (he : E e) :
    Within (MonadExcept.throw e >>= f) fr m E Q :=
  bind (throw (P := fun _ _ _ => False) he) fun _ _ _ h => h.elim

theorem bind_compileError {k : ErrorKind} {msg : String} {span : Span} {f : α → Run β}
    (he : E (.compile ⟨k, msg, span, none⟩)) : Within (Run.compileError k msg span >>= f) fr m E Q :=
  bind_throw he

end Reads

/-- A loop keeps `inv` when each pass does. -/
theorem forIn {γ : Type} {l : List γ} {b : β} {f : γ → β → Run (ForInStep β)}
    (inv : Frame → Machine → Prop)
    (hf : ∀ x ∈ l, ∀ b fr m, inv fr m → Within (f x b) fr m E fun _ fr' m' => inv fr' m')
    (hinv : inv fr m) : Within (ForIn.forIn l b f) fr m E fun _ fr' m' => inv fr' m' := by
  induction l generalizing b fr m with
  | nil => exact pure hinv
  | cons x l ih =>
    rw [List.forIn_cons]
    refine bind (hf x (List.mem_cons_self ..) b fr m hinv) fun step fr₁ m₁ hinv₁ => ?_
    cases step with
    | done b' => exact pure hinv₁
    | yield b' => exact ih (fun y hy => hf y (List.mem_cons_of_mem _ hy)) hinv₁

/-- A run that fails only in `E` and keeps the shape of memory does both at once. -/
theorem and_preserves {x : Run α} {P' : α → Frame → Machine → Prop} (hx : Within x fr m E P)
    (hp : Preserves x fr m P') :
    Within x fr m E fun a fr' m' => m.shape <+: m'.shape ∧ P a fr' m' ∧ P' a fr' m' := by
  intro r m' hrun
  obtain ⟨herr, hpost⟩ := hx r m' hrun
  obtain ⟨hgrow, hpost'⟩ := hp r m' hrun
  exact ⟨herr, fun a fr' h => ⟨hgrow, hpost a fr' h, hpost' a fr' h⟩⟩

end Within

end TypedJit.Interpreter

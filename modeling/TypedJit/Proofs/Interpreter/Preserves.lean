import Mathlib
import TypedJit.Interpreter.Exec

/-!
# Runs that keep the shape of memory
-/

namespace TypedJit

/-- The types of the scalars in memory, region by region. -/
def Machine.shape (m : Machine) : List (List ScalarType) :=
  m.regions.toList.map fun data => data.toList.map Scalar.ty

theorem Machine.shape_getElem? (m : Machine) (r : Nat) :
    m.shape[r]? = (m.regions[r]?).map fun data => data.toList.map Scalar.ty := by
  simp [Machine.shape]

namespace Interpreter

/-- Every run of `x` from `fr` and `m` keeps the shape of memory, and a successful one ends in
`post`. -/
def Preserves {α : Type} (x : Run α) (fr : Frame) (m : Machine)
    (post : α → Frame → Machine → Prop) : Prop :=
  ∀ r m', (x.run fr).run.run m = (r, m') →
    m.shape <+: m'.shape ∧ ∀ a fr', r = .ok (a, fr') → post a fr' m'

namespace Preserves

variable {α β : Type} {fr : Frame} {m : Machine} {P : α → Frame → Machine → Prop}

theorem pure {a : α} (h : P a fr m) : Preserves (Pure.pure a) fr m P := by
  intro r m' hrun
  cases hrun
  exact ⟨List.prefix_refl _, fun a' fr' h' => by cases h'; exact h⟩

theorem bind {P : α → Frame → Machine → Prop} {Q : β → Frame → Machine → Prop} {x : Run α}
    {f : α → Run β} (hx : Preserves x fr m P)
    (hf : ∀ a fr₁ m₁, m.shape <+: m₁.shape → P a fr₁ m₁ → Preserves (f a) fr₁ m₁ Q) :
    Preserves (x >>= f) fr m Q := by
  intro r m' hrun
  rcases hx₁ : (x.run fr).run.run m with ⟨r₁, m₁⟩
  obtain ⟨hgrow₁, hpost₁⟩ := hx r₁ m₁ hx₁
  simp only [StateT.run_bind, ExceptT.run_bind, hx₁] at hrun
  cases r₁ with
  | error e =>
    cases hrun
    exact ⟨hgrow₁, fun a fr' h => by cases h⟩
  | ok p =>
    obtain ⟨hgrow, hpost⟩ := hf p.1 p.2 m₁ hgrow₁ (hpost₁ p.1 p.2 rfl) r m' hrun
    exact ⟨hgrow₁.trans hgrow, hpost⟩

theorem mono {P Q : α → Frame → Machine → Prop} {x : Run α} (hx : Preserves x fr m P)
    (hPQ : ∀ a fr' m', m.shape <+: m'.shape → P a fr' m' → Q a fr' m') : Preserves x fr m Q := by
  intro r m' hrun
  obtain ⟨hgrow, hpost⟩ := hx r m' hrun
  exact ⟨hgrow, fun a fr' h => hPQ a fr' m' hgrow (hpost a fr' h)⟩

theorem throw {e : RunError} : Preserves (MonadExcept.throw e : Run α) fr m P := by
  intro r m' hrun
  cases hrun
  exact ⟨List.prefix_refl _, fun a fr' h => by cases h⟩

theorem fail {e : RunError} : Preserves (Run.fail e : Run α) fr m P := throw

theorem compileError {k : ErrorKind} {msg : String} {span : Span} :
    Preserves (Run.compileError k msg span : Run α) fr m P := throw

theorem ofExcept {x : Except RunError α} (h : ∀ a, x = .ok a → P a fr m) :
    Preserves (Run.ofExcept x) fr m P := by
  cases x with
  | error e => exact throw
  | ok a => exact pure (h a rfl)

theorem liftCompile {x : Except CompileError α} (h : ∀ a, x = .ok a → P a fr m) :
    Preserves (Run.liftCompile x) fr m P := by
  cases x with
  | error e => exact throw
  | ok a => exact pure (h a rfl)

theorem get {P : Frame → Frame → Machine → Prop} (h : P fr fr m) :
    Preserves (MonadState.get : Run Frame) fr m P := by
  intro r m' hrun
  cases hrun
  exact ⟨List.prefix_refl _, fun a fr' h' => by cases h'; exact h⟩

theorem set {fr' : Frame} {P : PUnit → Frame → Machine → Prop} (h : P ⟨⟩ fr' m) :
    Preserves (MonadStateOf.set fr' : Run PUnit) fr m P := by
  intro r m' hrun
  cases hrun
  exact ⟨List.prefix_refl _, fun a fr'' h' => by cases h'; exact h⟩

theorem modifyFrame {f : Frame → Frame} {P : PUnit → Frame → Machine → Prop} (h : P ⟨⟩ (f fr) m) :
    Preserves (modify f : Run PUnit) fr m P := by
  intro r m' hrun
  cases hrun
  exact ⟨List.prefix_refl _, fun a fr' h' => by cases h'; exact h⟩

theorem machine {P : Machine → Frame → Machine → Prop} (h : P m fr m) :
    Preserves Run.machine fr m P := by
  intro r m' hrun
  cases hrun
  exact ⟨List.prefix_refl _, fun a fr' h' => by cases h'; exact h⟩

theorem modifyMachine {g : Machine → Machine} {P : Unit → Frame → Machine → Prop}
    (hg : m.shape <+: (g m).shape) (h : P () fr (g m)) :
    Preserves (Run.modifyMachine g) fr m P := by
  intro r m' hrun
  cases hrun
  exact ⟨hg, fun a fr' h' => by cases h'; exact h⟩

/-- A failure caught by `tryCatch` hands the machine it reached to the handler, with the frame
the protected run started from. -/
theorem run_tryCatch (x : Run α) (h : RunError → Run α) :
    ((tryCatch x h).run fr).run.run m =
      match (x.run fr).run.run m with
      | (.ok p, m') => (.ok p, m')
      | (.error e, m') => ((h e).run fr).run.run m' := by
  rcases hx : (x.run fr).run.run m with ⟨r, m'⟩
  simp only [tryCatch, tryCatchThe, MonadExceptOf.tryCatch, ExceptT.tryCatch, StateT.run,
    ExceptT.run, ExceptT.mk] at hx ⊢
  simp only [Bind.bind, StateT.bind, hx]
  cases r <;> rfl

theorem tryCatch {x : Run α} {h : RunError → Run α} (hx : Preserves x fr m P)
    (hh : ∀ e m₁, m.shape <+: m₁.shape → Preserves (h e) fr m₁ P) :
    Preserves (tryCatch x h) fr m P := by
  intro r m' hrun
  rw [run_tryCatch] at hrun
  rcases hx₁ : (x.run fr).run.run m with ⟨r₁, m₁⟩
  obtain ⟨hgrow₁, hpost₁⟩ := hx r₁ m₁ hx₁
  rw [hx₁] at hrun
  cases r₁ with
  | ok p =>
    cases hrun
    exact ⟨hgrow₁, hpost₁⟩
  | error e =>
    obtain ⟨hgrow, hpost⟩ := hh e m₁ hgrow₁ r m' hrun
    exact ⟨hgrow₁.trans hgrow, hpost⟩

theorem mapError {f : RunError → RunError} {x : Run α} (hx : Preserves x fr m P) :
    Preserves (Run.mapError f x) fr m P :=
  Preserves.tryCatch hx fun _ _ _ => throw

/-! Steps that only read the state, or fail, are passed over by the lemmas below. -/

section Reads

variable {Q : β → Frame → Machine → Prop}

theorem bind_get {f : Frame → Run β} (h : Preserves (f fr) fr m Q) :
    Preserves (MonadState.get >>= f) fr m Q :=
  bind (get (P := fun a fr' m' => a = fr ∧ fr' = fr ∧ m' = m) ⟨rfl, rfl, rfl⟩)
    fun _ _ _ _ hp => by obtain ⟨rfl, rfl, rfl⟩ := hp; exact h

theorem bind_machine {f : Machine → Run β} (h : Preserves (f m) fr m Q) :
    Preserves (Run.machine >>= f) fr m Q :=
  bind (machine (P := fun a fr' m' => a = m ∧ fr' = fr ∧ m' = m) ⟨rfl, rfl, rfl⟩)
    fun _ _ _ _ hp => by obtain ⟨rfl, rfl, rfl⟩ := hp; exact h

theorem bind_set {fr' : Frame} {f : PUnit → Run β} (h : Preserves (f ⟨⟩) fr' m Q) :
    Preserves (MonadStateOf.set fr' >>= f) fr m Q :=
  bind (set (P := fun _ fr'' m' => fr'' = fr' ∧ m' = m) ⟨rfl, rfl⟩)
    fun _ _ _ _ hp => by obtain ⟨rfl, rfl⟩ := hp; exact h

theorem bind_modifyFrame {g : Frame → Frame} {f : PUnit → Run β} (h : Preserves (f ⟨⟩) (g fr) m Q) :
    Preserves (modify g >>= f) fr m Q :=
  bind (modifyFrame (P := fun _ fr' m' => fr' = g fr ∧ m' = m) ⟨rfl, rfl⟩)
    fun _ _ _ _ hp => by obtain ⟨rfl, rfl⟩ := hp; exact h

theorem bind_modifyMachine {g : Machine → Machine} {f : Unit → Run β}
    (hg : m.shape <+: (g m).shape) (h : Preserves (f ()) fr (g m) Q) :
    Preserves (Run.modifyMachine g >>= f) fr m Q :=
  bind (modifyMachine (P := fun _ fr' m' => fr' = fr ∧ m' = g m) hg ⟨rfl, rfl⟩)
    fun _ _ _ _ hp => by obtain ⟨rfl, rfl⟩ := hp; exact h

theorem bind_ofExcept {x : Except RunError α} {f : α → Run β}
    (h : ∀ a, x = .ok a → Preserves (f a) fr m Q) : Preserves (Run.ofExcept x >>= f) fr m Q :=
  bind (ofExcept (P := fun a fr' m' => x = .ok a ∧ fr' = fr ∧ m' = m) fun a ha => ⟨ha, rfl, rfl⟩)
    fun _ _ _ _ hp => by obtain ⟨ha, rfl, rfl⟩ := hp; exact h _ ha

theorem bind_liftCompile {x : Except CompileError α} {f : α → Run β}
    (h : ∀ a, x = .ok a → Preserves (f a) fr m Q) : Preserves (Run.liftCompile x >>= f) fr m Q :=
  bind (liftCompile (P := fun a fr' m' => x = .ok a ∧ fr' = fr ∧ m' = m) fun a ha => ⟨ha, rfl, rfl⟩)
    fun _ _ _ _ hp => by obtain ⟨ha, rfl, rfl⟩ := hp; exact h _ ha

theorem bind_throw {e : RunError} {f : α → Run β} : Preserves (MonadExcept.throw e >>= f) fr m Q :=
  bind (throw (P := fun _ _ _ => False)) fun _ _ _ _ h => h.elim

theorem bind_compileError {k : ErrorKind} {msg : String} {span : Span} {f : α → Run β} :
    Preserves (Run.compileError k msg span >>= f) fr m Q :=
  bind (compileError (P := fun _ _ _ => False)) fun _ _ _ _ h => h.elim

end Reads

/-- A loop keeps `inv` when each pass does. -/
theorem forIn {γ : Type} {l : List γ} {b : β} {f : γ → β → Run (ForInStep β)}
    (inv : Frame → Machine → Prop)
    (hf : ∀ x ∈ l, ∀ b fr m, inv fr m → Preserves (f x b) fr m fun _ fr' m' => inv fr' m')
    (hinv : inv fr m) : Preserves (ForIn.forIn l b f) fr m fun _ fr' m' => inv fr' m' := by
  induction l generalizing b fr m with
  | nil => exact pure hinv
  | cons x l ih =>
    rw [List.forIn_cons]
    refine bind (hf x (List.mem_cons_self ..) b fr m hinv) fun step fr₁ m₁ _ hinv₁ => ?_
    cases step with
    | done b' => exact pure hinv₁
    | yield b' => exact ih (fun y hy => hf y (List.mem_cons_of_mem _ hy)) hinv₁

/-- A `mapM` keeps `inv` when each of its steps does. -/
theorem mapM {γ : Type} {l : List γ} {f : γ → Run α} (inv : Frame → Machine → Prop)
    (hf : ∀ x ∈ l, ∀ fr m, inv fr m → Preserves (f x) fr m fun _ fr' m' => inv fr' m')
    (hinv : inv fr m) : Preserves (l.mapM f) fr m fun _ fr' m' => inv fr' m' := by
  induction l generalizing fr m with
  | nil => exact pure hinv
  | cons x l ih =>
    rw [List.mapM_cons]
    refine bind (hf x (List.mem_cons_self ..) fr m hinv) fun a fr₁ m₁ _ hinv₁ => ?_
    refine bind (ih (fun y hy => hf y (List.mem_cons_of_mem _ hy)) hinv₁) fun as fr₂ m₂ _ hinv₂ => ?_
    exact pure hinv₂

end Preserves

end Interpreter

end TypedJit

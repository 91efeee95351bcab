import TypedJit.Proofs.Interpreter.Expressions

/-!
# Statements keep memory well typed
-/

namespace TypedJit.Interpreter

variable {lib : Library} {fuel : Nat} {fr : Frame} {m : Machine}

/-- The value of an assignment target's container, when it is a name bound locally, is the value
in that name's slot. -/
theorem eval_container (ih : Sound lib fuel) (value : Expr) (hfr : fr.Typed m.shape) :
    Preserves (eval lib fuel value) fr m fun c fr' m' => fr' = fr ∧ c.Typed m'.shape ∧
      ∀ n b, value.asName? = some n → fr.scope.local? n = some b →
        c = (fr.slots[b.storage]?).getD .void := by
  by_cases hname : ∃ n span b, value = .name n span ∧ fr.scope.local? n = some b
  · obtain ⟨n, span, b, rfl, hb⟩ := hname
    refine (eval_name_local hb).mono fun c fr' m' hg h => ⟨h.1, ?_, ?_⟩
    · rw [h.2]
      exact (hfr.getD _).mono hg
    · intro n' b' hn' hb'
      cases hn'
      rw [hb] at hb'
      cases hb'
      exact h.2
  · refine (ih.eval value fr m hfr).mono fun c fr' m' _ h => ⟨h.1, h.2, ?_⟩
    intro n b hn hb
    cases value with
    | name n' span =>
      cases hn
      exact absurd ⟨_, _, b, rfl, hb⟩ hname
    | _ => cases hn

theorem place_sound (ih : Sound lib fuel) (target : Expr) (hfr : fr.Typed m.shape) :
    Preserves (place lib (fuel + 1) target) fr m fun p fr' m' => fr' = fr ∧ p.Typed fr m'.shape := by
  simp only [place]
  split
  · refine Preserves.bind_get (Preserves.bind_liftCompile fun r hr => ?_)
    split
    · obtain ⟨q, hq, rfl⟩ := Scope.resolve_bound_mem hr
      obtain ⟨v, hv, hvty⟩ := hfr.bound q hq
      exact Preserves.pure ⟨rfl, v, hv, hvty⟩
    · exact Preserves.compileError
  · exact Preserves.compileError
  · refine Preserves.bind (eval_container ih _ hfr) fun c fr₁ m₁ hg₁ h => ?_
    obtain ⟨hfr₁, hc, hcslot⟩ := h
    subst fr₁
    refine (ih.eval _ fr m₁ (hfr.mono hg₁)).bind_expr fun idx m₂ hg₂ _ => ?_
    refine Preserves.bind_ofExcept fun position _ => Preserves.bind_get ?_
    split
    · -- a lane of a local vector: the container is the value in the vector's slot
      rename_i e lanes slot hslot
      simp only [Option.bind_eq_some_iff] at hslot
      obtain ⟨b, ⟨n, hn, hb⟩, hif⟩ := hslot
      have hstorage : slot = b.storage := by
        split at hif
        · cases hif
          rfl
        · cases hif
      have hsome : fr.slots[b.storage]? = some (.vector e lanes) := by
        have hv := hcslot n b hn hb
        cases h : fr.slots[b.storage]? with
        | none => simp [h] at hv
        | some w => simp [h] at hv; rw [hv]
      subst hstorage
      exact Preserves.bind_ofExcept fun lane _ => Preserves.pure ⟨rfl, lanes, hsome⟩
    · exact Preserves.compileError
    · -- an element: the region's scalars have the pointer's element type
      split
      · rename_i helem
        refine Preserves.bind (elementIndex_preserves _ _ _ _) fun index fr₃ m₃ hg₃ hfr₃ => ?_
        subst fr₃
        obtain ⟨ts, hts, hall⟩ := hc.mono (hg₂.trans hg₃)
        refine Preserves.pure ⟨rfl, ts, hts, fun t ht => ?_⟩
        have := hall t ht
        rw [helem] at this
        exact (Option.some.inj this).symm
      · exact Preserves.compileError
    · exact Preserves.compileError
  · exact Preserves.compileError

theorem assign_sound (ih : Sound lib fuel) (target value : Expr) (hfr : fr.Typed m.shape) :
    Preserves (assign lib (fuel + 1) target value) fr m fun _ fr' m' =>
      fr'.Typed m'.shape ∧ fr.scope.locals <+: fr'.scope.locals := by
  simp only [assign]
  refine Preserves.bind_get ?_
  split
  on_goal 1 => split
  · -- an unseen name is declared with the value's type, an array decaying to a pointer
    rename_i n _ _
    refine (ih.eval value fr m hfr).bind_expr fun rhs m₁ hg₁ hrhs => ?_
    have hdeclare : ∀ ty, Preserves (do
        let c ← Run.ofExcept (castValue rhs ty value.span)
        declareLocal n ty c target.span
        pure ()) fr m₁ fun _ fr' m' =>
          fr'.Typed m'.shape ∧ fr.scope.locals <+: fr'.scope.locals := by
      intro ty
      refine Preserves.bind_ofExcept fun c hc => ?_
      obtain ⟨hcty, hct⟩ := castValue_ok hrhs hc
      refine Preserves.bind (declareLocal_preserves n ty c target.span) fun _ fr₂ m₂ _ h => ?_
      obtain ⟨rfl, hlocals, hslots⟩ := h
      refine Preserves.pure ⟨Frame.Typed.declare (hfr.mono hg₁) hcty hct hlocals hslots, ?_⟩
      rw [hlocals]
      exact List.prefix_append _ _
    split
    · exact Preserves.bind_compileError
    · simp only [pure_bind]
      exact hdeclare _
    · simp only [pure_bind]
      exact hdeclare _
  -- the general path, for a bound name and for any other target: the value is cast to the type
  -- of the place found for the target
  all_goals
    refine (ih.eval value fr m hfr).bind_expr fun rhs m₁ hg₁ hrhs => ?_
    refine Preserves.bind (ih.place target fr m₁ (hfr.mono hg₁)) fun p fr₂ m₂ hg₂ h => ?_
    obtain ⟨hfr₂, hp⟩ := h
    subst fr₂
    split
    · exact Preserves.bind_compileError
    refine Preserves.bind_ofExcept fun stored hstored => ?_
    obtain ⟨hty, hst⟩ := castValue_ok (hrhs.mono hg₂) hstored
    refine (storePlace_preserves (hfr.mono (hg₁.trans hg₂)) hp hty hst).mono
      fun _ fr' m' _ h => ⟨h.1, ?_⟩
    exact h.2 ▸ List.prefix_refl _

theorem execStmt_sound (ih : Sound lib fuel) (s : Stmt) (hfr : fr.Typed m.shape) :
    Preserves (execStmt lib (fuel + 1) s) fr m (StmtPost fr) := by
  cases s <;> simp only [execStmt]
  case assign t v _ =>
    exact Preserves.bind (ih.assign t v fr m hfr) fun _ _ _ _ h => Preserves.pure ⟨h.1, h.2, trivial⟩
  case augAssign t op v _ =>
    -- the place is found first, and what is stored is cast to its type
    refine Preserves.bind (ih.place t fr m hfr) fun p fr₁ m₁ hg₁ h => ?_
    obtain ⟨hfr₁, hp⟩ := h
    subst fr₁
    refine Preserves.bind (loadPlace_preserves (hfr.mono hg₁) p) fun cur fr₂ m₂ _ h => ?_
    obtain ⟨hfr₂, hm₂, hcur⟩ := h
    subst fr₂ m₂
    refine (ih.eval v fr m₁ (hfr.mono hg₁)).bind_expr fun rhs m₃ hg₃ hrhs => ?_
    refine Preserves.bind_ofExcept fun r hr => Preserves.bind_ofExcept fun stored hstored => ?_
    obtain ⟨hty, hst⟩ := castValue_ok (binaryValue_typed (hcur.mono hg₃) hrhs hr) hstored
    refine Preserves.bind (storePlace_preserves (hfr.mono (hg₁.trans hg₃)) (hp.mono hg₃) hty hst)
      fun _ fr₄ m₄ _ h => Preserves.pure ⟨h.1, ?_, trivial⟩
    exact h.2 ▸ List.prefix_refl _
  case eval e _ =>
    have hexpr : ∀ e, Preserves (do let _ ← eval lib fuel e; pure Flow.next) fr m (StmtPost fr) :=
      fun e => (ih.eval e fr m hfr).bind_expr fun _ m₁ hg₁ _ =>
        Preserves.pure ⟨hfr.mono hg₁, List.prefix_refl _, trivial⟩
    split
    · exact Preserves.pure ⟨hfr, List.prefix_refl _, trivial⟩
    · refine Preserves.bind_get ?_
      split
      · exact Preserves.bind (declareVars_preserves hfr) fun _ _ _ _ h =>
          Preserves.pure ⟨h.1, h.2, trivial⟩
      · exact hexpr _
    · exact hexpr _
  case branch test body orelse _ =>
    refine (ih.eval test fr m hfr).bind_expr fun c m₁ hg₁ _ => ?_
    exact Preserves.bind_ofExcept fun b _ => ih.execBlock _ fr m₁ (hfr.mono hg₁)
  case forLoop target ts iter body _ => exact ih.execFor target ts iter body fr m hfr
  case whileLoop test body _ => exact ih.execWhile test body fr m hfr
  case ret value span => exact ih.execReturn value span fr m hfr
  case pass _ => exact Preserves.pure ⟨hfr, List.prefix_refl _, trivial⟩
  case unsupported c span => exact Preserves.compileError

/-- A statement after a statement: the names bound only grow. -/
theorem StmtPost.trans {fr fr₁ fr' : Frame} {m' : Machine} {fl : Flow}
    (h₁ : fr.scope.locals <+: fr₁.scope.locals) (h : StmtPost fr₁ fl fr' m') : StmtPost fr fl fr' m' :=
  ⟨h.1, h₁.trans h.2.1, h.2.2⟩

theorem execBlock_sound (ih : Sound lib fuel) (body : List Stmt) (hfr : fr.Typed m.shape) :
    Preserves (execBlock lib (fuel + 1) body) fr m (StmtPost fr) := by
  cases body with
  | nil =>
    simp only [execBlock]
    exact Preserves.pure ⟨hfr, List.prefix_refl _, trivial⟩
  | cons s rest =>
    simp only [execBlock]
    refine (Preserves.mapError (ih.execStmt s fr m hfr)).bind_stmt
      fun fl fr₁ m₁ _ hfr₁ hpre₁ hfl => ?_
    split
    · exact Preserves.pure ⟨hfr₁, hpre₁, hfl⟩
    · exact (ih.execBlock rest fr₁ m₁ hfr₁).mono fun _ _ _ _ h => h.trans hpre₁

theorem execWhile_sound (ih : Sound lib fuel) (test : Expr) (body : List Stmt)
    (hfr : fr.Typed m.shape) : Preserves (execWhile lib (fuel + 1) test body) fr m (StmtPost fr) := by
  simp only [execWhile]
  refine (ih.eval test fr m hfr).bind_expr fun c m₁ hg₁ _ => ?_
  refine Preserves.bind_ofExcept fun b _ => ?_
  split
  · exact Preserves.pure ⟨hfr.mono hg₁, List.prefix_refl _, trivial⟩
  · refine (ih.execBlock body fr m₁ (hfr.mono hg₁)).bind_stmt
      fun fl fr₂ m₂ _ hfr₂ hpre₂ hfl => ?_
    split
    · exact Preserves.pure ⟨hfr₂, hpre₂, hfl⟩
    · exact (ih.execWhile test body fr₂ m₂ hfr₂).mono fun _ _ _ _ h => h.trans hpre₂

theorem execReturn_sound (ih : Sound lib fuel) (value : Option Expr) (span : Span)
    (hfr : fr.Typed m.shape) : Preserves (execReturn lib (fuel + 1) value span) fr m (StmtPost fr) := by
  simp only [execReturn]
  refine Preserves.bind_get ?_
  split
  · exact Preserves.pure ⟨hfr, List.prefix_refl _, trivial⟩
  · exact Preserves.compileError
  · exact Preserves.compileError
  · refine (ih.eval _ fr m hfr).bind_expr fun r m₁ hg₁ hr => ?_
    split
    · exact Preserves.bind_compileError
    · exact Preserves.bind_ofExcept fun w hw =>
        Preserves.pure ⟨hfr.mono hg₁, List.prefix_refl _, (castValue_ok hr hw).2⟩

theorem forSteps_sound (ih : Sound lib fuel) (slot : Nat) (stop : Int) (kind : ScalarType)
    (span : Span) (body : List Stmt) (hfr : fr.Typed m.shape)
    (hslot : ∃ q ∈ fr.scope.locals, q.2 = ⟨.scalar kind, slot⟩) :
    Preserves (forSteps lib (fuel + 1) slot stop kind span body) fr m (StmtPost fr) := by
  simp only [forSteps]
  refine Preserves.bind_get (Preserves.bind_ofExcept fun cur _ => ?_)
  split
  · exact Preserves.pure ⟨hfr, List.prefix_refl _, trivial⟩
  refine (ih.execBlock body fr m hfr).bind_stmt fun fl fr₁ m₁ hg₁ hfr₁ hpre₁ hfl => ?_
  split
  · exact Preserves.pure ⟨hfr₁, hpre₁, hfl⟩
  refine Preserves.bind_get (Preserves.bind_ofExcept fun cur' _ => Preserves.bind_modifyFrame ?_)
  -- the counter is still bound after the body, and the step stores a scalar of its type
  obtain ⟨q, hq, hqslot⟩ := hslot
  have hq₁ : q ∈ fr₁.scope.locals := hpre₁.subset hq
  obtain ⟨w, hw, hwty⟩ := hfr₁.bound q hq₁
  rw [hqslot] at hw hwty
  have hnext : (Value.scalar ((Scalar.i64 (Int64.ofInt cur'.toInt + 1)).cast kind)).ty = w.ty := by
    rw [hwty]
    simp [Value.ty]
  exact (ih.forSteps slot stop kind span body _ m₁ (hfr₁.setSlot hw hnext trivial)
    ⟨q, hq₁, hqslot⟩).mono fun _ _ _ _ h => h.trans hpre₁

theorem execFor_sound (ih : Sound lib fuel) (target : String) (ts : Span) (iter : Expr)
    (body : List Stmt) (hfr : fr.Typed m.shape) :
    Preserves (execFor lib (fuel + 1) target ts iter body) fr m (StmtPost fr) := by
  simp only [execFor]
  refine Preserves.bind_get ?_
  refine Preserves.bind (rangeBounds_preserves fr iter) fun bounds fr₁ m₁ hg₁ hfr₁ => ?_
  subst fr₁
  -- once the counter's type is known: the counter is declared, then the steps run
  have hkind : ∀ (start stopV : Value) (s : ScalarType) (m₂ : Machine), m.shape <+: m₂.shape →
      start.Typed m₂.shape → Preserves (do
        let initial ← Run.ofExcept (castValue start (.scalar s) iter.span)
        declareLocal target (.scalar s) initial ts
        let slot := (← get).slots.size - 1
        let stopValue ← Run.ofExcept (castValue stopV (.scalar s) bounds.2.span)
        let stopScalar ← Run.ofExcept (scalarOf stopValue bounds.2.span)
        forSteps lib fuel slot stopScalar.toInt s iter.span body) fr m₂ (StmtPost fr) := by
    intro start stopV s m₂ hg₂ hstart
    refine Preserves.bind_ofExcept fun initial hinitial => ?_
    obtain ⟨hity, hit⟩ := castValue_ok hstart hinitial
    refine Preserves.bind (declareLocal_preserves target (.scalar s) initial ts)
      fun _ fr₃ m₃ _ h => ?_
    obtain ⟨rfl, hlocals, hslots⟩ := h
    refine Preserves.bind_get
      (Preserves.bind_ofExcept fun _ _ => Preserves.bind_ofExcept fun stopScalar _ => ?_)
    have hfr₃ : fr₃.Typed m₃.shape := Frame.Typed.declare (hfr.mono hg₂) hity hit hlocals hslots
    have hslot : ∃ q ∈ fr₃.scope.locals, q.2 = ⟨.scalar s, fr₃.slots.size - 1⟩ :=
      ⟨(target, ⟨.scalar s, fr.slots.size⟩), by simp [hlocals], by simp [hslots]⟩
    refine (ih.forSteps _ _ s _ body fr₃ m₃ hfr₃ hslot).mono fun _ _ _ _ h => h.trans ?_
    rw [hlocals]
    exact List.prefix_append _ _
  refine Preserves.bind_liftCompile fun _ _ => ?_
  split
  · refine (ih.eval _ fr m₁ (hfr.mono hg₁)).bind_expr fun start m₂ hg₂ hstart => ?_
    refine (ih.eval _ fr m₂ (hfr.mono (hg₁.trans hg₂))).bind_expr fun stopV m₃ hg₃ _ => ?_
    split
    · split
      · simp only [pure_bind]
        exact hkind start stopV _ m₃ (hg₁.trans (hg₂.trans hg₃)) (hstart.mono hg₃)
      · exact Preserves.bind_compileError
    · exact Preserves.bind_compileError
  · simp only [pure_bind]
    refine (ih.eval _ fr m₁ (hfr.mono hg₁)).bind_expr fun stopV m₃ hg₃ _ => ?_
    split
    · split
      · exact hkind _ stopV _ m₃ (hg₁.trans hg₃) trivial
      · exact Preserves.bind_compileError
    · exact Preserves.bind_compileError

/-- Every function of the interpreter is sound at every budget: by induction on the budget, each
function at `fuel + 1` only calls functions at `fuel`. -/
theorem sound (lib : Library) : ∀ fuel, Sound lib fuel
  | 0 => sound_zero lib
  | fuel + 1 =>
    have ih := sound lib fuel
    { eval := fun e _ _ hfr => eval_sound ih e hfr
      evalCall := fun func args kws span _ _ hfr => evalCall_sound ih func args kws span hfr
      evalArgs := fun as ps _ _ hfr => evalArgs_sound ih as ps hfr
      callFunction := fun id values span _ _ hvalues => callFunction_sound ih id values span hvalues
      execute := fun f sig values _ _ hfr hvalues => execute_sound ih f sig values hfr hvalues
      execBlock := fun body _ _ hfr => execBlock_sound ih body hfr
      execStmt := fun s _ _ hfr => execStmt_sound ih s hfr
      assign := fun target value _ _ hfr => assign_sound ih target value hfr
      place := fun target _ _ hfr => place_sound ih target hfr
      execFor := fun target ts iter body _ _ hfr => execFor_sound ih target ts iter body hfr
      forSteps := fun slot stop kind span body _ _ hfr hslot =>
        forSteps_sound ih slot stop kind span body hfr hslot
      execWhile := fun test body _ _ hfr => execWhile_sound ih test body hfr
      execReturn := fun value span _ _ hfr => execReturn_sound ih value span hfr }

end TypedJit.Interpreter

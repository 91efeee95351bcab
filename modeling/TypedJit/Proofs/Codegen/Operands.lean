import TypedJit.Proofs.Codegen.Outline

/-!
Operands the generator holds.
-/

namespace TypedJit.Machine

open Codegen

/-- An operand of type `t` that can be read in the current block. -/
def Operand.Ready (sig : Signature) (O : Outline) (s : GenState) (o : Operand) (t : Mty) : Prop :=
  o.HasType O.type t ∧ ∀ r, o = .reg r → LiveAt sig O s r s.current

namespace Operand.Ready

variable {sig : Signature} {O O' : Outline} {s s' : GenState} {o : Operand} {t : Mty}

theorem const {w : Word} (h : w.HasType t) : (Operand.const w).Ready sig O s t :=
  ⟨h, fun _ h => by cases h⟩

/-- An operand holding its value somewhere has its type under every type map agreeing with the
outline on the registers taken so far. -/
theorem hasType_of_live (hw : WellBuilt sig O s) {b : Nat} (h : o.HasType O.type t)
    (hl : ∀ r, o = .reg r → LiveAt sig O s r b) {Γ : Nat → Option Mty}
    (hΓ : ∀ r < s.nextReg, Γ r = O.type r) : o.HasType Γ t := by
  cases o with
  | reg r =>
    have hr := hw.lt_nextReg (hl r rfl)
    simpa [Operand.HasType, hΓ r hr] using h
  | const w => exact h

theorem hasType (hw : WellBuilt sig O s) (h : o.Ready sig O s t) {Γ : Nat → Option Mty}
    (hΓ : ∀ r < s.nextReg, Γ r = O.type r) : o.HasType Γ t :=
  hasType_of_live hw h.1 h.2 hΓ

theorem live (h : o.Ready sig O s t) {r : Nat} (hr : .reg r = o) : LiveAt sig O s r s.current :=
  h.2 r hr.symm

theorem grow (hw : WellBuilt sig O s) (hg : Grows O s O' s') (h : o.Ready sig O s t) :
    o.Ready sig O' s' t := by
  refine ⟨h.hasType hw fun r hr => hg.grown.type r hr, fun r hr => ?_⟩
  exact (h.2 r hr).grow hw hg

/-- Growing the state without leaving the current block keeps an operand ready. -/
theorem extend (hw : WellBuilt sig O s) (he : Extends O s O' s') (hc : s'.current = s.current)
    (h : o.Ready sig O s t) : o.Ready sig O' s' t := by
  refine ⟨h.hasType hw fun r hr => he.type r hr, fun r hr => ?_⟩
  rw [hc]
  exact (h.2 r hr).extend hw he hw.current_lt

/-- An operand ready in a block stays ready in the blocks below it. -/
theorem enter {b : Nat} (h : o.Ready sig O s t) (hb : Code.Above O.parent s.current b) :
    o.Ready sig O { s with current := b } t :=
  ⟨h.1, fun r hr => (h.2 r hr).below hb⟩

end Operand.Ready

end TypedJit.Machine

namespace TypedJit.Codegen

open Machine

/-- A slot whose address can be read in the current block. -/
def Slot.Ready (sig : Signature) (O : Outline) (s : GenState) : Slot → Prop
  | .memory ty p => ∃ m, Mty.storage ty = some m ∧ p.Ready sig O s (.ptr m)
  | .lane st v i => ∃ e n, v = .vector e n ∧
      (Operand.reg st).Ready sig O s (.ptr (.vector e n)) ∧ i.Ready sig O s (.scalar .int64)

/-- A value whose operand, or whose storage, can be read in the current block. -/
def TValue.Ready (sig : Signature) (O : Outline) (s : GenState) : TValue → Prop
  | .const _ => True
  | .var ty p => (Slot.memory ty (.reg p)).Ready sig O s
  | .temp ty v => ∃ m, Mty.ofTy ty = some m ∧ v.Ready sig O s m
  | .slot sl => sl.Ready sig O s
  | .void => True

variable {sig : Signature} {O O' : Outline} {s s' : GenState}

theorem Slot.Ready.grow (hw : WellBuilt sig O s) (hg : Grows O s O' s') {sl : Slot}
    (h : sl.Ready sig O s) : sl.Ready sig O' s' := by
  cases sl with
  | memory ty p =>
    obtain ⟨m, hm, hp⟩ := h
    exact ⟨m, hm, hp.grow hw hg⟩
  | lane st v i =>
    obtain ⟨e, n, rfl, hst, hi⟩ := h
    exact ⟨e, n, rfl, hst.grow hw hg, hi.grow hw hg⟩

theorem TValue.Ready.grow (hw : WellBuilt sig O s) (hg : Grows O s O' s') {v : TValue}
    (h : v.Ready sig O s) : v.Ready sig O' s' := by
  cases v with
  | const c => trivial
  | var ty p =>
    have h' : (Slot.memory ty (.reg p)).Ready sig O s := h
    exact Slot.Ready.grow hw hg h'
  | temp ty o =>
    obtain ⟨m, hm, ho⟩ := h
    exact ⟨m, hm, ho.grow hw hg⟩
  | slot sl => exact Slot.Ready.grow hw hg h
  | void => trivial

/-! ## Specifications of generators -/

/-- Every successful run of `x` from `s` grows the outline `O` and the state into a well-built
one where `Q` holds of the result. -/
def Builds {α : Type} (sig : Signature) (O : Outline) (s : GenState) (x : Gen α)
    (Q : Outline → α → GenState → Prop) : Prop :=
  Gen.Yields x s fun a s' => ∃ O', Grows O s O' s' ∧ WellBuilt sig O' s' ∧ Q O' a s'

namespace Builds

variable {α β : Type} {x : Gen α} {f : α → Gen β} {P : Outline → α → GenState → Prop}
  {Q : Outline → β → GenState → Prop}

theorem bind (hx : Builds sig O s x P)
    (hf : ∀ O₁ a s₁, Grows O s O₁ s₁ → WellBuilt sig O₁ s₁ → P O₁ a s₁ → Builds sig O₁ s₁ (f a) Q) :
    Builds sig O s (x >>= f) Q := by
  refine Gen.Yields.bind hx fun a s₁ h₁ => ?_
  obtain ⟨O₁, hg₁, hw₁, hp₁⟩ := h₁
  refine (hf O₁ a s₁ hg₁ hw₁ hp₁).mono fun b s₂ h₂ => ?_
  obtain ⟨O₂, hg₂, hw₂, hq₂⟩ := h₂
  exact ⟨O₂, hg₁.trans hw₁ hg₂, hw₂, hq₂⟩

theorem mono (hx : Builds sig O s x P) (h : ∀ O' a s', P O' a s' → Q' O' a s') :
    Builds sig O s x Q' :=
  Gen.Yields.mono hx fun a s' h' => h'.imp fun O' hp => ⟨hp.1, hp.2.1, h O' a s' hp.2.2⟩

theorem pure {a : α} (hw : WellBuilt sig O s) (h : P O a s) : Builds sig O s (Pure.pure a) P :=
  Gen.Yields.pure ⟨O, Grows.refl O s, hw, h⟩

theorem fail {k : ErrorKind} {msg : String} {sp : Span} : Builds sig O s (Gen.fail k msg sp : Gen α) P :=
  Gen.Yields.fail

theorem throw {e : CompileError} : Builds sig O s (MonadExcept.throw e : Gen α) P :=
  Gen.Yields.throw

theorem mapError {g : CompileError → CompileError} (hx : Builds sig O s x P) :
    Builds sig O s (Gen.mapError g x) P :=
  Gen.Yields.mapError hx

/-- A generator whose every run ends in `s'` with `a`. -/
theorem of_run {a : α} (h : ∀ t, ((x.run s).run.run t).1 = .ok (a, s'))
    (hpost : ∃ O', Grows O s O' s' ∧ WellBuilt sig O' s' ∧ P O' a s') : Builds sig O s x P := by
  intro t a' s'' t' hrun
  have := h t
  rw [hrun] at this
  cases this
  exact hpost

theorem bind_get {f : GenState → Gen β} (h : Builds sig O s (f s) Q) :
    Builds sig O s (MonadState.get >>= f) Q :=
  Gen.Yields.bind_get h

theorem bind_lift {y : Except CompileError α} {f : α → Gen β}
    (h : ∀ a, y = .ok a → Builds sig O s (f a) Q) : Builds sig O s (Gen.lift y >>= f) Q :=
  Gen.Yields.bind_lift h

end Builds

/-! ## Steps of the generator -/

section Steps

/-- A step that changes neither the blocks, the registers, the current block, the stack slots nor
the names keeps the state well built. -/
theorem WellBuilt.frame (hw : WellBuilt sig O s) (hb : s'.blocks = s.blocks)
    (hp : s'.entryPrefix = s.entryPrefix) (hc : s'.current = s.current)
    (hn : s'.nextReg = s.nextReg) (hsc : s'.scope = s.scope) : WellBuilt sig O s' := by
  obtain ⟨⟩ := s
  obtain ⟨⟩ := s'
  simp only at hb hp hc hn hsc
  subst hb hp hc hn hsc
  exact { hw with }

/-- A step that changes neither the blocks nor the registers. -/
theorem Extends.same (hb : s'.blocks = s.blocks) (hn : s'.nextReg = s.nextReg) :
    Extends O s O s' :=
  ⟨by rw [hb], fun _ _ _ h => by rwa [GenState.inst?_of_blocks hb], fun _ _ => rfl,
    fun _ _ => rfl, fun _ h => h, by rw [hn]⟩

theorem Extends.fresh (O : Outline) (s : GenState) :
    Extends O s O { s with nextReg := s.nextReg + 1 } :=
  { Extends.refl O s with nextReg_le := Nat.le_succ _ }

/-- A bookkeeping step: it changes what the module records, not the function's code. -/
theorem Builds.frame {α : Type} {x : Gen α} {a : α} (hw : WellBuilt sig O s)
    (h : ∀ t, ((x.run s).run.run t).1 = .ok (a, s')) (hb : s'.blocks = s.blocks)
    (hp : s'.entryPrefix = s.entryPrefix) (hc : s'.current = s.current)
    (hn : s'.nextReg = s.nextReg) (hsc : s'.scope = s.scope) :
    Builds sig O s x fun O' b _ => O' = O ∧ b = a :=
  Builds.of_run h ⟨O, Grows.of_inst? (GenState.inst?_of_blocks hb) hc (Extends.same hb hn),
    hw.frame hb hp hc hn hsc, rfl, rfl⟩

/-- A register taken for an instruction of type `t` gets that type in the outline. -/
theorem typed_fresh_builds (hw : WellBuilt sig O s) (t : Mty) :
    Builds sig O s fresh fun O' r s' =>
      r = s.nextReg ∧ O' = O.assign s.nextReg t ∧ s' = { s with nextReg := s.nextReg + 1 } :=
  Builds.of_run (fun _ => rfl)
    ⟨O.assign s.nextReg t,
      Grows.of_inst? rfl rfl ((Extends.assign (le_refl _) t).trans (Extends.fresh _ s)),
      (hw.assign (le_refl s.nextReg) t).fresh, rfl, rfl, rfl⟩

/-- An instruction writing the register just taken may be appended when it is typed with that
register of type `t` and reads registers holding their values. -/
theorem WellBuilt.appendable_fresh (hw : WellBuilt sig O s) {i : Inst} {t : Mty}
    (hdst : i.dst? = some s.nextReg) (htargets : i.targets = [])
    (hphi : i.isPhi = true → 0 < s.current ∧ s.len s.current = 0 ∧
      (i.incoming.map Prod.snd).Nodup ∧ ∀ p, p ∈ i.incoming.map Prod.snd ↔ s.Edge p s.current)
    (hinc : ∀ r p, (.reg r, p) ∈ i.incoming → LiveAt sig O s r p)
    (htyped : ∀ Γ : Nat → Option Mty, (∀ r < s.nextReg, Γ r = O.type r) → Γ s.nextReg = some t →
      i.WellTyped Γ (Mty.ofTy sig.ret))
    (huses : ∀ r, .reg r ∈ i.operands → LiveAt sig O s r s.current) :
    Appendable sig (O.assign s.nextReg t) { s with nextReg := s.nextReg + 1 } i := by
  have hlive : ∀ {r b}, LiveAt sig O s r b →
      LiveAt sig (O.assign s.nextReg t) { s with nextReg := s.nextReg + 1 } r b :=
    fun h => h.mono (fun _ h => h) rfl fun _ _ _ h => h
  refine ⟨fun Γ hΓ => htyped Γ (fun r hr => ?_) ?_, fun r hr => ?_, fun r hr => hlive (huses r hr),
    by simp [htargets], hphi, fun r p h => hlive (hinc r p h)⟩
  · rw [hΓ r (Nat.lt_succ_of_lt hr)]
    exact Function.update_of_ne (Nat.ne_of_lt hr) _ _
  · simp [hΓ s.nextReg (Nat.lt_succ_self _), Outline.assign]
  · obtain rfl : r = s.nextReg := by simpa [hdst] using hr.symm
    refine ⟨hw.params_le, Nat.lt_succ_self _, fun b k hwr => ?_, fun t' ht => ?_⟩
    · exact lt_irrefl _ (hw.writes_range _ b k hwr).2
    · exact lt_irrefl _ (hw.slots_range _ t' ht).2

/-- Appending an appendable instruction that neither branches nor is a phi. -/
theorem emitted_builds (hw : WellBuilt sig O s) {i : Inst} (ha : Appendable sig O s i)
    (ht : i.targets = []) (hp : i.isPhi = false) :
    Builds sig O s (emit i) fun O' _ s' => O' = O ∧ s' = s.emitted i :=
  Builds.of_run (fun _ => rfl) ⟨O, Grows.emitted hw.current_lt ht hp, hw.emitted ha, rfl, rfl⟩

/-- The register an appended instruction writes holds its value in the current block. -/
theorem WellBuilt.written_ready (hw : WellBuilt sig O s) {i : Inst} {r : Nat} {t : Mty}
    (hd : i.dst? = some r) (ht : O.type r = some t) :
    (Operand.reg r).Ready sig O (s.emitted i) t :=
  ⟨ht, fun r' hr => by
    cases hr
    exact .inr (.inr ⟨s.current, s.len s.current, Code.Above.refl _,
      (GenState.writes_emitted hw.current_lt).2 (.inr ⟨rfl, rfl, hd⟩)⟩)⟩

/-- An instruction writing a fresh register of type `t`, reading registers that hold their values
in the current block, gives a ready operand. -/
theorem emitValue_builds (hw : WellBuilt sig O s) {mk : Nat → Inst} {t : Mty}
    (hdst : (mk s.nextReg).dst? = some s.nextReg) (htargets : (mk s.nextReg).targets = [])
    (hphi : (mk s.nextReg).isPhi = false)
    (htyped : ∀ Γ : Nat → Option Mty, (∀ r < s.nextReg, Γ r = O.type r) → Γ s.nextReg = some t →
      (mk s.nextReg).WellTyped Γ (Mty.ofTy sig.ret))
    (huses : ∀ r, .reg r ∈ (mk s.nextReg).operands → LiveAt sig O s r s.current) :
    Builds sig O s (emitValue mk) fun O' o s' => o.Ready sig O' s' t := by
  unfold emitValue
  refine (typed_fresh_builds hw t).bind fun O₁ r s₁ _ hw₁ h₁ => ?_
  obtain ⟨rfl, rfl, rfl⟩ := h₁
  have ha := hw.appendable_fresh hdst htargets (by simp [hphi])
    (by simp [Inst.incoming_of_isPhi_false hphi]) htyped huses
  refine (emitted_builds hw₁ ha htargets hphi).bind fun O₂ _ s₂ _ hw₂ h₂ => ?_
  obtain ⟨rfl, rfl⟩ := h₂
  exact Builds.pure hw₂ (hw₁.written_ready hdst (by simp [Outline.assign]))

/-- An instruction that writes no register, branches nowhere and reads registers holding their
values. -/
theorem emit_builds (hw : WellBuilt sig O s) {i : Inst} (hdst : i.dst? = none)
    (htargets : i.targets = []) (hphi : i.isPhi = false)
    (htyped : ∀ Γ : Nat → Option Mty, (∀ r < s.nextReg, Γ r = O.type r) →
      i.WellTyped Γ (Mty.ofTy sig.ret))
    (huses : ∀ r, .reg r ∈ i.operands → LiveAt sig O s r s.current) :
    Builds sig O s (emit i) fun O' _ s' => O' = O ∧ s' = s.emitted i :=
  Builds.of_run (fun _ => rfl)
    ⟨O, Grows.emitted hw.current_lt htargets hphi,
      hw.emitted ⟨htyped, by simp [hdst], huses, by simp [htargets], by simp [hphi],
        by simp [Inst.incoming_of_isPhi_false hphi]⟩, rfl, rfl⟩

/-- A new block is empty and hangs below the current one. -/
theorem appendBlock_builds (hw : WellBuilt sig O s) (l : String) :
    Builds sig O s (appendBlock l) fun O' b s' =>
      b = s.blocks.size ∧ O'.parent b = s.current ∧ s'.inst? = s.inst? ∧
        s'.blocks.size = b + 1 ∧ s'.current = s.current :=
  Builds.of_run (fun _ => rfl)
    ⟨O.adopt s.blocks.size s.current,
      Grows.of_inst? (GenState.inst?_of_push rfl) rfl (hw.extends_push rfl rfl),
      hw.push rfl rfl rfl rfl rfl, rfl, by simp [Outline.adopt], GenState.inst?_of_push rfl,
      by simp, rfl⟩

/-- A step that reads the state. -/
theorem Builds.read {α : Type} {x : Gen α} {a : α} (hw : WellBuilt sig O s)
    (h : ∀ t, ((x.run s).run.run t).1 = .ok (a, s)) :
    Builds sig O s x fun O' b s' => b = a ∧ O' = O ∧ s' = s :=
  Builds.of_run h ⟨O, Grows.refl O s, hw, rfl, rfl, rfl⟩

theorem currentBlock_builds (hw : WellBuilt sig O s) :
    Builds sig O s currentBlock fun O' b s' => b = s.current ∧ O' = O ∧ s' = s :=
  Builds.read hw fun _ => rfl

theorem isTerminated_builds (hw : WellBuilt sig O s) :
    Builds sig O s isTerminated fun O' b s' => b = s.terminated ∧ O' = O ∧ s' = s :=
  Builds.read hw fun t => by simp [isTerminated_run]; rfl

theorem record_builds (hw : WellBuilt sig O s) (f : SessionStats → SessionStats) :
    Builds sig O s (Gen.record f) fun O' _ s' => O' = O ∧ s' = s :=
  Builds.of_run (fun _ => rfl) ⟨O, Grows.refl O s, hw, rfl, rfl⟩

/-- A variable's storage is a new stack slot of its storage type. -/
theorem allocaFor_builds (hw : WellBuilt sig O s) (ty : Ty) (n : String) (sp : Span) :
    Builds sig O s (allocaFor ty n sp) fun O' r _ =>
      ∃ m, Mty.storage ty = some m ∧ (r, m) ∈ O'.slots := by
  rcases hm : Mty.storage ty with _ | m
  · simp only [allocaFor, hm]
    exact Builds.fail
  · simp only [allocaFor, hm]
    refine Builds.of_run (fun _ => rfl) ⟨O.addSlot s.nextReg m, Grows.of_inst? rfl rfl ?_,
      hw.allocated m, m, rfl, List.mem_cons_self⟩
    exact { Extends.refl O s with
      type := fun r hr => Function.update_of_ne (Nat.ne_of_lt hr) _ _
      slots := fun x hx => List.mem_cons_of_mem _ hx
      nextReg_le := Nat.le_succ _ }

/-- Binding a name to a stack slot of its storage type keeps the state well built. -/
theorem WellBuilt.declared (hw : WellBuilt sig O s) {n : String} {ty : Ty} {ptr : Nat} {sp : Span}
    {sc : Scope Nat} (hsc : s.scope.declare n ty ptr sp = .ok sc)
    (hp : ∃ m, Mty.storage ty = some m ∧ (ptr, m) ∈ O.slots) :
    WellBuilt sig O { s with scope := sc } := by
  have hsc' := Scope.declare_eq_ok hsc
  refine hw.declare fun nm bd hbd => ?_
  rw [hsc'] at hbd
  rcases List.mem_append.1 hbd with hbd | hbd
  · exact hw.scope nm bd hbd
  · cases List.mem_singleton.1 hbd
    exact hp

/-- A name bound to a stack slot of its storage type. -/
theorem declareLocal_builds (hw : WellBuilt sig O s) (n : String) (ty : Ty) (ptr : Nat)
    (sp : Span) (hp : ∃ m, Mty.storage ty = some m ∧ (ptr, m) ∈ O.slots) :
    Builds sig O s (declareLocal n ty ptr sp) fun O' _ _ => O' = O :=
  Builds.bind_get (Builds.bind_lift fun _ hsc => Builds.of_run (fun _ => rfl)
    ⟨O, Grows.of_inst? rfl rfl (Extends.same rfl rfl), hw.declared hsc hp, rfl⟩)

/-- The same for a name of `var(...)`. -/
theorem declareName_builds (hw : WellBuilt sig O s) (n : String) (ty : Ty) (ptr : Nat)
    (sp : Span) (hp : ∃ m, Mty.storage ty = some m ∧ (ptr, m) ∈ O.slots) :
    Builds sig O s (genVar.declareName n ty ptr sp) fun O' _ _ => O' = O :=
  Builds.bind_get (Builds.bind_lift fun _ hsc => Builds.of_run (fun _ => rfl)
    ⟨O, Grows.of_inst? rfl rfl (Extends.same rfl rfl), hw.declared hsc hp, rfl⟩)

end Steps

/-! ## Instructions on ready operands -/

section Instructions

variable {t : Mty} {l r x v i p : Operand}

/-- The registers among ready operands hold their values in the current block. -/
theorem live_of_forall₂ {os : List Operand} {ts : List Mty}
    (h : List.Forall₂ (Operand.Ready sig O s) os ts) {r : Nat} (hr : .reg r ∈ os) :
    LiveAt sig O s r s.current := by
  induction h with
  | nil => cases hr
  | cons ho _ ih =>
    rcases List.mem_cons.1 hr with heq | hr
    · exact ho.2 r heq.symm
    · exact ih hr

/-- Arithmetic on two operands of an arithmetic type, folded when both are constants. -/
theorem binary_builds (hw : WellBuilt sig O s) {op : BinaryOp} (ha : t.IsArith op.isReal)
    (hl : l.Ready sig O s t) (hr : r.Ready sig O s t) :
    Builds sig O s (binary op l r) fun O' o s' => o.Ready sig O' s' t := by
  have hfolded : Builds sig O s (binary.folded op l r) fun O' o s' => o.Ready sig O' s' t := by
    unfold binary.folded
    split
    · exact Builds.pure hw (.const (binaryWord_hasType hl.1 hr.1))
    · exact emitValue_builds hw rfl rfl rfl
        (fun _ hΓ hd => ⟨t, ha, hl.hasType hw hΓ, hr.hasType hw hΓ, hd⟩)
        fun _ h => live_of_forall₂ (.cons hl (.cons hr .nil)) h
  unfold binary
  split
  · split
    · exact Builds.pure hw hl
    · exact hfolded
  · split
    · exact Builds.pure hw hl
    · exact hfolded
  · exact hfolded

theorem negate_builds (hw : WellBuilt sig O s) (ha : t.IsArith false) (hx : x.Ready sig O s t) :
    Builds sig O s (negate t x) fun O' o s' => o.Ready sig O' s' t :=
  binary_builds hw ha (.const (zeroOf_hasType t)) hx

theorem invert_builds (hw : WellBuilt sig O s) (ha : t.IsArith false) (hx : x.Ready sig O s t) :
    Builds sig O s (invert t x) fun O' o s' => o.Ready sig O' s' t :=
  binary_builds hw ha hx (.const (allOnes_hasType t))

theorem fneg_builds (hw : WellBuilt sig O s) (ha : t.IsArith true) (hx : x.Ready sig O s t) :
    Builds sig O s (fneg x) fun O' o s' => o.Ready sig O' s' t := by
  unfold fneg
  split
  · exact Builds.pure hw (.const (negWord_hasType hx.1))
  · exact emitValue_builds hw rfl rfl rfl (fun _ hΓ hd => ⟨t, ha, hx.hasType hw hΓ, hd⟩)
      fun _ h => live_of_forall₂ (.cons hx .nil) h

theorem icmp_builds (hw : WellBuilt sig O s) {e : ScalarType} (he : e.isReal = false)
    (hl : l.Ready sig O s (.scalar e)) (hr : r.Ready sig O s (.scalar e)) (q : IntPred) :
    Builds sig O s (icmp q l r) fun O' o s' => o.Ready sig O' s' (.scalar .bool) := by
  unfold icmp
  split
  · exact Builds.pure hw (.const (icmpWord_hasType q _ _))
  · exact emitValue_builds hw rfl rfl rfl
      (fun _ hΓ hd => ⟨e, he, hl.hasType hw hΓ, hr.hasType hw hΓ, hd⟩)
      fun _ h => live_of_forall₂ (.cons hl (.cons hr .nil)) h

theorem fcmp_builds (hw : WellBuilt sig O s) {e : ScalarType} (he : e.isReal = true)
    (hl : l.Ready sig O s (.scalar e)) (hr : r.Ready sig O s (.scalar e)) (q : RealPred) :
    Builds sig O s (fcmp q l r) fun O' o s' => o.Ready sig O' s' (.scalar .bool) := by
  unfold fcmp
  split
  · exact Builds.pure hw (.const (fcmpWord_hasType q _ _))
  · exact emitValue_builds hw rfl rfl rfl
      (fun _ hΓ hd => ⟨e, he, hl.hasType hw hΓ, hr.hasType hw hΓ, hd⟩)
      fun _ h => live_of_forall₂ (.cons hl (.cons hr .nil)) h

theorem castOp_builds (hw : WellBuilt sig O s) {op : CastOp} {src dst : ScalarType}
    (hc : op.Converts src dst) (hx : x.Ready sig O s (.scalar src)) :
    Builds sig O s (castOp op x (.scalar dst)) fun O' o s' => o.Ready sig O' s' (.scalar dst) := by
  unfold castOp
  split
  · exact Builds.pure hw (.const (castWord_hasType op _ dst))
  · exact emitValue_builds hw rfl rfl rfl
      (fun _ hΓ hd => ⟨src, dst, hc, hx.hasType hw hΓ, rfl, hd⟩)
      fun _ h => live_of_forall₂ (.cons hx .nil) h

theorem extract_builds (hw : WellBuilt sig O s) {e : ScalarType} {n : Nat}
    (hv : v.Ready sig O s (.vector e n)) (hi : i.Ready sig O s (.scalar .int64)) :
    Builds sig O s (extract v i) fun O' o s' => o.Ready sig O' s' (.scalar e) := by
  unfold extract
  split
  · exact Builds.pure hw (.const (extractWord_hasType hv.1 _))
  · exact emitValue_builds hw rfl rfl rfl
      (fun _ hΓ hd => ⟨e, n, hv.hasType hw hΓ, hi.hasType hw hΓ, hd⟩)
      fun _ h => live_of_forall₂ (.cons hv (.cons hi .nil)) h

theorem insert_builds (hw : WellBuilt sig O s) {e : ScalarType} {n : Nat}
    (hv : v.Ready sig O s (.vector e n)) (hx : x.Ready sig O s (.scalar e))
    (hi : i.Ready sig O s (.scalar .int64)) :
    Builds sig O s (insert v x i) fun O' o s' => o.Ready sig O' s' (.vector e n) := by
  unfold insert
  split
  · exact Builds.pure hw (.const (insertWord_hasType hv.1 hx.1 _))
  · exact emitValue_builds hw rfl rfl rfl
      (fun _ hΓ hd => ⟨e, n, hv.hasType hw hΓ, hx.hasType hw hΓ, hi.hasType hw hΓ, hd⟩)
      fun _ h => live_of_forall₂ (.cons hv (.cons hx (.cons hi .nil))) h

theorem load_builds (hw : WellBuilt sig O s) (hp : p.Ready sig O s (.ptr t)) :
    Builds sig O s (load t p) fun O' o s' => o.Ready sig O' s' t :=
  emitValue_builds hw rfl rfl rfl (fun _ hΓ hd => ⟨hp.hasType hw hΓ, hd⟩)
    fun _ h => live_of_forall₂ (.cons hp .nil) h

theorem store_builds (hw : WellBuilt sig O s) (hv : v.Ready sig O s t)
    (hp : p.Ready sig O s (.ptr t)) :
    Builds sig O s (store v p) fun _ _ _ => True :=
  (emit_builds (i := .store v p) hw rfl rfl rfl (fun _ hΓ => ⟨t, hv.hasType hw hΓ, hp.hasType hw hΓ⟩)
    fun _ h => live_of_forall₂ (.cons hv (.cons hp .nil)) h).mono fun _ _ _ _ => trivial

theorem elementAddress_builds (hw : WellBuilt sig O s) {e : ScalarType}
    (hb : p.Ready sig O s (.ptr (.scalar e))) (hi : i.Ready sig O s (.scalar .int64)) :
    Builds sig O s (elementAddress p i) fun O' o s' => o.Ready sig O' s' (.ptr (.scalar e)) :=
  emitValue_builds hw rfl rfl rfl
    (fun _ hΓ hd => ⟨e, hb.hasType hw hΓ, hi.hasType hw hΓ, hd⟩)
    fun _ h => live_of_forall₂ (.cons hb (.cons hi .nil)) h

theorem decay_builds (hw : WellBuilt sig O s) {e : ScalarType} {n : Nat}
    (hp : p.Ready sig O s (.ptr (.array e n))) :
    Builds sig O s (decay p) fun O' o s' => o.Ready sig O' s' (.ptr (.scalar e)) :=
  emitValue_builds hw rfl rfl rfl (fun _ hΓ hd => ⟨e, n, hp.hasType hw hΓ, hd⟩)
    fun _ h => live_of_forall₂ (.cons hp .nil) h

end Instructions

/-! ## Values -/

section Values

theorem valueType_builds (hw : WellBuilt sig O s) (ty : Ty) :
    Builds sig O s (valueType ty) fun O' m s' => Mty.ofTy ty = some m ∧ O' = O ∧ s' = s := by
  unfold valueType
  split
  · exact Builds.pure hw ⟨‹_›, rfl, rfl⟩
  · exact Builds.fail

/-- Storage other than a bounded array holds a value as it travels. -/
theorem storage_eq_ofTy {ty : Ty} (h : ∀ e n, ty ≠ .array e n) : Mty.storage ty = Mty.ofTy ty := by
  cases ty <;> simp_all [Mty.storage]

/-- Loading a slot: the address of a bounded array's first element, or the value it holds. -/
theorem slotLoad_builds (hw : WellBuilt sig O s) {sl : Slot} (h : sl.Ready sig O s) :
    Builds sig O s sl.load fun O' o s' => ∃ m, Mty.ofTy sl.ty = some m ∧ o.Ready sig O' s' m := by
  unfold Slot.load
  split
  · obtain ⟨m, hm, hp⟩ := h
    cases hm
    exact (decay_builds hw hp).mono fun _ _ _ ho => ⟨_, rfl, ho⟩
  · rename_i ty p hty
    obtain ⟨m, hm, hp⟩ := h
    rw [storage_eq_ofTy hty] at hm
    refine (valueType_builds hw ty).bind fun O₁ m' s₁ _ _ h₁ => ?_
    obtain ⟨hm', rfl, rfl⟩ := h₁
    rw [hm] at hm'
    cases hm'
    exact (load_builds hw hp).mono fun _ _ _ ho => ⟨m, hm, ho⟩
  · obtain ⟨e, n, rfl, hst, hi⟩ := h
    refine (valueType_builds hw _).bind fun O₁ m' s₁ _ _ h₁ => ?_
    obtain ⟨hm', rfl, rfl⟩ := h₁
    cases hm'
    refine (load_builds hw hst).bind fun O₂ w s₂ hg₂ hw₂ hw' => ?_
    exact (extract_builds hw₂ hw' (hi.grow hw hg₂)).mono fun _ _ _ ho => ⟨_, rfl, ho⟩

/-- Storing a value of the slot's type into it. -/
theorem slotStore_builds (hw : WellBuilt sig O s) {sl : Slot} (h : sl.Ready sig O s) {v : Operand}
    {m : Mty} (hm : Mty.ofTy sl.ty = some m) (hv : v.Ready sig O s m) :
    Builds sig O s (sl.store v) fun _ _ _ => True := by
  unfold Slot.store
  split
  · exact Builds.fail
  · rename_i ty p hty
    obtain ⟨m', hm', hp⟩ := h
    change Mty.ofTy ty = some m at hm
    rw [storage_eq_ofTy hty, hm] at hm'
    cases hm'
    exact store_builds hw hv hp
  · obtain ⟨e, n, rfl, hst, hi⟩ := h
    cases hm
    refine (valueType_builds hw _).bind fun O₁ m' s₁ _ _ h₁ => ?_
    obtain ⟨hm', rfl, rfl⟩ := h₁
    cases hm'
    refine (load_builds hw hst).bind fun O₂ w s₂ hg₂ hw₂ hw' => ?_
    refine (insert_builds hw₂ hw' (hv.grow hw hg₂) (hi.grow hw hg₂)).bind
      fun O₃ u s₃ hg₃ hw₃ hu => ?_
    exact store_builds hw₃ hu ((hst.grow hw hg₂).grow hw₂ hg₃)

theorem materialize_var (ty : Ty) (p : Nat) :
    materialize (.var ty p) = (Slot.memory ty (.reg p)).load := by
  cases ty <;> rfl

/-- The operand of a ready value has the machine type of the value's type; a `Void` result has
none and fails. -/
theorem materialize_builds (hw : WellBuilt sig O s) {v : TValue} (h : v.Ready sig O s) :
    Builds sig O s (materialize v) fun O' o s' =>
      ∃ m, Mty.ofTy v.ty = some m ∧ o.Ready sig O' s' m := by
  cases v with
  | const c => exact Builds.pure hw ⟨_, rfl, .const (.scalar c)⟩
  | var ty p =>
    rw [materialize_var]
    exact slotLoad_builds hw h
  | temp ty o => exact Builds.pure hw h
  | slot sl => exact slotLoad_builds hw h
  | void => exact Builds.fail

/-- The cast instruction `castScalar` picks between two distinct scalar types, other than a test
against zero, converts between them; two distinct integer types differ in width. -/
theorem castScalar_converts {src dst : ScalarType} (hne : src ≠ dst) (hb : dst ≠ .bool) :
    (src.isReal = false → dst.isReal = false → src = .bool → CastOp.Converts .zext src dst) ∧
    (src.isReal = false → dst.isReal = false → src.bits ≠ dst.bits) ∧
    (src.isReal = false → dst.isReal = false → src.bits ≠ dst.bits →
      CastOp.Converts (if dst.bits < src.bits then .trunc else .sext) src dst) ∧
    (src.isReal = false → dst.isReal = true →
      CastOp.Converts (if src = .bool then .uitofp else .sitofp) src dst) ∧
    (src.isReal = true → dst.isReal = false → CastOp.Converts .fptosi src dst) ∧
    (src.isReal = true → dst.isReal = true →
      CastOp.Converts (if dst.bits > src.bits then .fpext else .fptrunc) src dst) := by
  cases src <;> cases dst <;> simp_all [CastOp.Converts, ScalarType.isReal, ScalarType.bits]

theorem castScalar_builds (hw : WellBuilt sig O s) {raw : Operand} {src dst : ScalarType}
    (h : raw.Ready sig O s (.scalar src)) :
    Builds sig O s (Codegen.castScalar raw src dst) fun O' o s' =>
      o.Ready sig O' s' (.scalar dst) := by
  have hzero : (Operand.const (.scalar (Scalar.zero src))).Ready sig O s (.scalar src) :=
    .const (.of_scalar (Scalar.ty_zero src))
  unfold Codegen.castScalar
  split
  · subst dst
    exact Builds.pure hw h
  split
  · -- a truth test compares with zero
    subst dst
    split
    · exact fcmp_builds hw ‹_› h hzero .une
    · exact icmp_builds hw (Bool.eq_false_iff.2 ‹_›) h hzero .ne
  · obtain ⟨hz, hbits, hint, hfloat, htrunc, hreal⟩ := castScalar_converts ‹src ≠ dst› ‹dst ≠ .bool›
    split
    · split
      · exact castOp_builds hw (hz ‹_› ‹_› ‹_›) h
      · split
        · exact absurd ‹_› (hbits ‹_› ‹_›)
        · exact castOp_builds hw (hint ‹_› ‹_› ‹_›) h
    · exact castOp_builds hw (hfloat ‹_› ‹_›) h
    · exact castOp_builds hw (htrunc ‹_› ‹_›) h
    · exact castOp_builds hw (hreal ‹_› ‹_›) h

/-- Inserting a scalar into lanes one after another keeps a vector of its type. -/
theorem insertEach_builds {lane : Operand} {e : ScalarType} {n : Nat} :
    ∀ (l : List Nat) (O : Outline) (s : GenState) (v : Operand), WellBuilt sig O s →
      lane.Ready sig O s (.scalar e) → v.Ready sig O s (.vector e n) →
      Builds sig O s (l.foldlM (fun v i => insert v lane (indexConst i)) v) fun O' o s' =>
        o.Ready sig O' s' (.vector e n)
  | [], O, s, v, hw, _, hv => Builds.pure hw hv
  | i :: l, O, s, v, hw, hl, hv => by
    rw [List.foldlM_cons]
    exact (insert_builds hw hv hl (.const (.scalar _))).bind fun O₁ v₁ s₁ hg hw₁ hv₁ =>
      insertEach_builds l O₁ s₁ v₁ hw₁ (hl.grow hw hg) hv₁

theorem broadcast_builds (hw : WellBuilt sig O s) {lane : Operand} {e : ScalarType} {n : Nat}
    (h : lane.Ready sig O s (.scalar e)) :
    Builds sig O s (broadcast lane e n) fun O' o s' => o.Ready sig O' s' (.vector e n) :=
  insertEach_builds _ O s _ hw h (.const (.of_length (List.length_replicate ..) (by simp)))

/-- Two array types one casts to the other travel the same way. -/
theorem ofTy_eq_of_castable {a b : Ty} (h : castable a b = true) (hne : a ≠ b)
    (hs : ∀ x y, a = .scalar x → b = .scalar y → False)
    (hv : ∀ x e n, a = .scalar x → b = .vector e n → False) : Mty.ofTy a = Mty.ofTy b := by
  cases a <;> cases b <;> simp_all [castable, Mty.ofTy]

/-- What `castValue` does once its check has passed and no constant is folded: the value's
operand, converted to the target type. -/
def convertValue (v : TValue) (target : Ty) (span : Span) : Gen Operand := do
  let raw ← Gen.mapError (·.atIfUnknown span) (materialize v)
  if v.ty = target then return raw
  match v.ty, target with
  | .scalar s, .scalar d => castScalar raw s d
  | .scalar s, .vector e n => do
    let laneValue ← castScalar raw s e
    broadcast laneValue e n
  | _, _ => pure raw

theorem castValue_eq_convert {v : TValue} {t : Ty} {sp : Span} (h : castable v.ty t = true)
    (hc : ∀ c d, v = .const c → t = .scalar d → False) :
    castValue v t sp = convertValue v t sp := by
  unfold castValue convertValue
  simp only [h, Bool.not_true]
  -- only a constant cast to a scalar is folded
  cases v with
  | const c =>
    cases t
    case scalar d => exact (hc c d rfl rfl).elim
    all_goals rfl
  | _ => rfl

theorem convertValue_builds (hw : WellBuilt sig O s) {v : TValue} (h : v.Ready sig O s)
    (t : Ty) (sp : Span) (hcast : castable v.ty t = true) :
    Builds sig O s (convertValue v t sp) fun O' o s' =>
      ∃ m, Mty.ofTy t = some m ∧ o.Ready sig O' s' m := by
  unfold convertValue
  refine (Builds.mapError (materialize_builds hw h)).bind fun O₁ raw s₁ hg₁ hw₁ h₁ => ?_
  obtain ⟨m, hm, hraw⟩ := h₁
  by_cases hty : v.ty = t
  · rw [if_pos hty]
    exact Builds.pure hw₁ ⟨m, hty ▸ hm, hraw⟩
  rw [if_neg hty]
  split
  · rename_i hs
    rw [hs] at hm
    cases hm
    exact (castScalar_builds hw₁ hraw).mono fun _ _ _ ho => ⟨_, rfl, ho⟩
  · rename_i hs
    rw [hs] at hm
    cases hm
    refine (castScalar_builds hw₁ hraw).bind fun O₂ lv s₂ _ hw₂ hlv => ?_
    exact (broadcast_builds hw₂ hlv).mono fun _ _ _ ho => ⟨_, rfl, ho⟩
  · rename_i hs hv
    exact Builds.pure hw₁ ⟨m, ofTy_eq_of_castable hcast hty hs hv ▸ hm, hraw⟩

/-- A conversion gives an operand of the target's machine type; it fails unless the types
cast. -/
theorem castValue_builds (hw : WellBuilt sig O s) {v : TValue} (h : v.Ready sig O s) (t : Ty)
    (sp : Span) :
    Builds sig O s (castValue v t sp) fun O' o s' =>
      ∃ m, Mty.ofTy t = some m ∧ o.Ready sig O' s' m := by
  cases hc : castable v.ty t
  · simp only [castValue, hc, Bool.not_false, if_true]
    exact Builds.bind (P := fun _ _ _ => False) Builds.throw fun _ _ _ _ _ h => h.elim
  · by_cases hk : ∃ c d, v = .const c ∧ t = .scalar d
    · obtain ⟨c, d, rfl, rfl⟩ := hk
      simp only [castValue, hc, Bool.not_true]
      exact Builds.pure hw ⟨_, rfl, .const (.of_scalar (Scalar.ty_cast c d))⟩
    · rw [castValue_eq_convert hc fun c d h₁ h₂ => hk ⟨c, d, h₁, h₂⟩]
      exact convertValue_builds hw h t sp hc

theorem castValue_scalar_builds (hw : WellBuilt sig O s) {v : TValue} (h : v.Ready sig O s)
    (e : ScalarType) (sp : Span) :
    Builds sig O s (castValue v (.scalar e) sp) fun O' o s' => o.Ready sig O' s' (.scalar e) :=
  (castValue_builds hw h _ sp).mono fun _ _ _ ho => by
    obtain ⟨m, hm, ho⟩ := ho
    cases hm
    exact ho

theorem toBool_builds (hw : WellBuilt sig O s) {v : TValue} (h : v.Ready sig O s) (sp : Span) :
    Builds sig O s (toBool v sp) fun O' o s' => o.Ready sig O' s' (.scalar .bool) :=
  castValue_scalar_builds hw h .bool sp

/-- An index is converted to a 64-bit integer. -/
theorem indexValue_builds (hw : WellBuilt sig O s) {v : TValue} (h : v.Ready sig O s) (sp : Span) :
    Builds sig O s (indexValue v sp) fun O' o s' => o.Ready sig O' s' (.scalar .int64) := by
  unfold indexValue
  split
  · split
    · exact castValue_scalar_builds hw h .int64 sp
    · exact Builds.fail
  · exact Builds.fail

theorem constantValue_builds (hw : WellBuilt sig O s) (lit : Literal) (sp : Span) :
    Builds sig O s (constantValue lit sp) fun O' v s' => v.Ready sig O' s' := by
  unfold constantValue
  split
  · exact Builds.pure hw trivial
  · exact Builds.fail

/-- A stack slot of the outline holds its address in every block. -/
theorem WellBuilt.slot_ready (hw : WellBuilt sig O s) {r : Nat} {m : Mty} (h : (r, m) ∈ O.slots) :
    (Operand.reg r).Ready sig O s (.ptr m) :=
  ⟨hw.slots_typed r m h, fun _ hr => by
    cases hr
    exact .inr (.inl ⟨m, h⟩)⟩

/-- A local names a stack slot of its storage type. -/
theorem WellBuilt.bound_ready (hw : WellBuilt sig O s) {n : String} {sp : Span} {b : Binding Nat}
    (h : s.scope.resolve n sp = .ok (.bound b)) :
    (Slot.memory b.ty (.reg b.storage)).Ready sig O s := by
  obtain ⟨q, hq, rfl⟩ := Interpreter.Scope.resolve_bound_mem h
  obtain ⟨m, hm, hs⟩ := hw.scope q.1 q.2 hq
  exact ⟨m, hm, hw.slot_ready hs⟩

theorem nameValue_builds (hw : WellBuilt sig O s) (n : String) (sp : Span) :
    Builds sig O s (nameValue n sp) fun O' v s' => v.Ready sig O' s' := by
  unfold nameValue
  refine Builds.bind_get (Builds.bind_lift fun res hres => ?_)
  split
  · exact Builds.pure hw (hw.bound_ready hres)
  · exact Builds.pure hw trivial
  · exact Builds.fail
  · exact Builds.fail

/-- Declaring a callee changes only the module's declarations. -/
theorem declareCallee_builds (hw : WellBuilt sig O s) (f : FunctionRef) (sp : Span) :
    Builds sig O s (declareCallee f sp) fun O' _ _ => O' = O := by
  unfold declareCallee
  refine Builds.bind_get ?_
  split
  · dsimp only
    split
    · exact Builds.fail
    · exact Builds.pure hw rfl
  · refine (Builds.frame hw (fun _ => rfl) ?_ ?_ ?_ ?_ ?_).mono fun _ _ _ h => h.1
    all_goals rfl

end Values

/-! ## Operators -/

section Operators

variable {l r : Operand}

theorem commonType_builds (hw : WellBuilt sig O s) (a b : Ty) (sym : String) (sp : Span) :
    Builds sig O s (commonType a b sym sp) fun O' t s' => coerce a b = some t ∧ O' = O ∧ s' = s := by
  unfold commonType
  split
  · exact Builds.pure hw ⟨‹_›, rfl, rfl⟩
  · exact Builds.fail

theorem operandKindOf_builds (hw : WellBuilt sig O s) (ty : Ty) (sym : String) (sp : Span) :
    Builds sig O s (operandKindOf ty sym sp) fun O' k s' =>
      ty.operandKind = some k ∧ O' = O ∧ s' = s := by
  unfold operandKindOf
  split
  · exact Builds.pure hw ⟨‹_›, rfl, rfl⟩
  · exact Builds.fail

theorem scalarElement_builds (hw : WellBuilt sig O s) (ty : Ty) (sp : Span) :
    Builds sig O s (scalarElement ty sp) fun O' e s' => ty.element = some e ∧ O' = O ∧ s' = s := by
  unfold scalarElement
  split
  · exact Builds.pure hw ⟨‹_›, rfl, rfl⟩
  · exact Builds.fail

/-- The machine type of a value is arithmetic for the element kind that selects its
operators. -/
theorem isArith_of_operandKind {ty : Ty} {kind : ScalarType} {m : Mty}
    (hk : ty.operandKind = some kind) (hm : Mty.ofTy ty = some m) : m.IsArith kind.isReal := by
  cases ty <;> cases hk <;> cases hm <;> rfl

theorem eq_bool_of_isBool {kind : ScalarType} (h : kind.isBool = true) : kind = .bool := by
  simpa [ScalarType.isBool] using h

theorem kindBinary_builds (hw : WellBuilt sig O s) {kind : ScalarType} {m : Mty}
    (ha : m.IsArith kind.isReal) (hl : l.Ready sig O s m) (hr : r.Ready sig O s m) (op : BinOp)
    (sp : Span) :
    Builds sig O s (kindBinary kind op l r sp) fun O' o s' => o.Ready sig O' s' m := by
  unfold kindBinary
  split
  next hb =>
    -- on Bool only the bitwise operators are defined
    rw [eq_bool_of_isBool hb] at ha
    split
    case h_4 => exact Builds.fail
    all_goals exact binary_builds hw ha hl hr
  split
  next hreal =>
    rw [hreal] at ha
    split
    case h_6 => exact Builds.fail
    all_goals exact binary_builds hw ha hl hr
  next hreal =>
    rw [Bool.eq_false_iff.2 hreal] at ha
    exact binary_builds hw (by cases op <;> exact ha) hl hr

theorem kindCompare_builds (hw : WellBuilt sig O s) {kind : ScalarType}
    (hl : l.Ready sig O s (.scalar kind)) (hr : r.Ready sig O s (.scalar kind)) (op : CmpOp)
    (sp : Span) :
    Builds sig O s (kindCompare kind op l r sp) fun O' o s' => o.Ready sig O' s' (.scalar .bool) := by
  unfold kindCompare
  split
  next hb =>
    -- Bool values are compared for equality only
    have hreal : kind.isReal = false := by rw [eq_bool_of_isBool hb]; rfl
    split
    case h_3 => exact Builds.fail
    all_goals exact icmp_builds hw hreal hl hr _
  split
  · exact fcmp_builds hw ‹_› hl hr _
  · exact icmp_builds hw (Bool.eq_false_iff.2 ‹_›) hl hr _

theorem kindUnary_builds (hw : WellBuilt sig O s) {kind : ScalarType} {ty : Ty} {m : Mty}
    (hm : Mty.ofTy ty = some m) (ha : m.IsArith kind.isReal) {v : Operand}
    (hv : v.Ready sig O s m) (op : UnaryOp) (sp : Span) :
    Builds sig O s (kindUnary kind ty op v sp) fun O' o s' => o.Ready sig O' s' m := by
  have hty : valueType ty = pure m := by simp [valueType, hm]
  unfold kindUnary
  dsimp only
  split
  · exact Builds.fail
  split
  · exact Builds.pure hw hv
  · split
    · exact fneg_builds hw (‹kind.isReal = true› ▸ ha) hv
    · rw [hty, pure_bind]
      exact negate_builds hw (Bool.eq_false_iff.2 ‹_› ▸ ha) hv
  · split
    · exact Builds.fail
    · rw [hty, pure_bind]
      exact invert_builds hw (Bool.eq_false_iff.2 ‹_› ▸ ha) hv
  · exact Builds.fail

/-- Both operands are converted to their common type, whose element kind picks the operator. -/
theorem binaryValue_builds (hw : WellBuilt sig O s) {lhs rhs : TValue} (hl : lhs.Ready sig O s)
    (hr : rhs.Ready sig O s) (op : BinOp) (sp : Span) :
    Builds sig O s (binaryValue op lhs rhs sp) fun O' v s' => v.Ready sig O' s' := by
  unfold binaryValue
  refine (commonType_builds hw _ _ _ _).bind fun O₁ ty s₁ _ _ h₁ => ?_
  obtain ⟨-, rfl, rfl⟩ := h₁
  refine (operandKindOf_builds hw ty _ _).bind fun O₂ kind s₂ _ _ h₂ => ?_
  obtain ⟨hk, rfl, rfl⟩ := h₂
  refine (castValue_builds hw hl ty sp).bind fun O₃ a s₃ hg₃ hw₃ h₃ => ?_
  obtain ⟨m, hm, ha⟩ := h₃
  refine (castValue_builds hw₃ (hr.grow hw hg₃) ty sp).bind fun O₄ b s₄ hg₄ hw₄ h₄ => ?_
  obtain ⟨m', hm', hb⟩ := h₄
  obtain rfl : m = m' := Option.some.inj (hm.symm.trans hm')
  refine (Builds.mapError (kindBinary_builds hw₄ (isArith_of_operandKind hk hm)
    (ha.grow hw₃ hg₄) hb op sp)).bind fun O₅ v s₅ _ hw₅ hv => ?_
  exact Builds.pure hw₅ ⟨m, hm, hv⟩

end Operators

end TypedJit.Codegen

import TypedJit.Proofs.Codegen.Operands

/-!
Constructs that make blocks.
-/

namespace TypedJit.Codegen

open Machine

variable {sig : Signature} {O O₀ O' : Outline} {s s₀ s' : GenState} {N c b : Nat}

/-! ## Blocks not filled yet -/

namespace GenState

theorem inst?_of_lt_len {k : Nat} (h : k < s.len b) : ∃ i, s.inst? b k = some i := by
  unfold len at h
  rcases hb : s.blocks[b]? with _ | blk
  · simp [hb] at h
  · simp only [hb, Option.map_some, Option.getD_some] at h
    exact ⟨blk.insts[k], by simp [inst?, hb, h]⟩

/-- A block holding no instruction has length zero. -/
theorem len_eq_zero (h : ∀ k, s.inst? b k = none) : s.len b = 0 := by
  by_contra hne
  obtain ⟨i, hi⟩ := inst?_of_lt_len (Nat.pos_of_ne_zero hne)
  rw [h] at hi
  cases hi

/-- A block that does not exist yet holds nothing. -/
theorem inst?_of_size_le (hb : s.blocks.size ≤ b) (k : Nat) : s.inst? b k = none := by
  simp [inst?, hb]

theorem inst?_emitted_of_ne (hc : s.current < s.blocks.size) {i : Inst} (hb : b ≠ s.current)
    (k : Nat) : (s.emitted i).inst? b k = s.inst? b k := by
  rw [inst?_emitted hc]
  simp [hb]

theorem noPhi_of_empty (h : ∀ k, s.inst? b k = none) : s.NoPhi b := by
  intro k i hi
  rw [h] at hi
  cases hi

theorem noPhi_emitted (hc : s.current < s.blocks.size) {i : Inst} (hp : s.NoPhi b)
    (hi : i.isPhi = false) : (s.emitted i).NoPhi b := by
  intro k j hj
  rcases (inst?_emitted_eq_some hc).1 hj with hj | ⟨-, -, rfl⟩
  · exact hp k j hj
  · exact hi

end GenState

/-- No branch goes to a block that does not exist yet. -/
theorem WellBuilt.not_edge (hw : WellBuilt sig O s) (hb : s.blocks.size ≤ b) (p : Nat) :
    ¬ s.Edge p b := by
  rintro ⟨k, i, hi, hbt⟩
  exact absurd (hw.targets p k i hi b hbt).2.1 (Nat.not_lt.2 hb)

/-- A construct adds no phi to the blocks before it. -/
theorem Confined.noPhi (h : Confined N c s s') (hb : b < N) (hp : s.NoPhi b) : s'.NoPhi b := by
  intro k i hi
  cases hphi : i.isPhi
  · rfl
  · simpa [hphi] using hp k i (h.phis b hb k i hi hphi)

/-- A construct adds no branch to the blocks before it. -/
theorem Confined.edge_iff (h : Confined N c s s') (he : Extends O s O' s') (hb : b < N)
    (p : Nat) : s'.Edge p b ↔ s.Edge p b :=
  ⟨fun hpb => (h.edges p b hpb).resolve_right (Nat.not_le.2 hb), he.edge⟩

/-! ## Inside a construct -/

/-- Every successful run of `x` from `s` stays inside the construct that began in block `c` of
`s₀`, which had `N` blocks then, under the outline `O₀`. -/
def Within {α : Type} (sig : Signature) (N c : Nat) (O₀ : Outline) (s₀ s : GenState) (x : Gen α)
    (Q : Outline → α → GenState → Prop) : Prop :=
  Gen.Yields x s fun a s' => ∃ O', Inside N c O₀ s₀ O' s' ∧ WellBuilt sig O' s' ∧ Q O' a s'

/-- A construct run from its start grows the state. -/
theorem Builds.of_within {α : Type} {x : Gen α} {Q : Outline → α → GenState → Prop}
    (h : Within sig s.blocks.size s.current O s s x Q) : Builds sig O s x Q :=
  h

theorem Gen.Yields.of_run {α : Type} {x : Gen α} {a : α} {P : α → GenState → Prop}
    (h : ∀ t, ((x.run s).run.run t).1 = .ok (a, s')) (hpost : P a s') : Gen.Yields x s P := by
  intro t a' s'' t' hrun
  have := h t
  rw [hrun] at this
  cases this
  exact hpost

namespace Within

variable {α β : Type} {x : Gen α} {f : α → Gen β} {P : Outline → α → GenState → Prop}
  {Q : Outline → β → GenState → Prop}

theorem bind (hx : Within sig N c O₀ s₀ s x P)
    (hf : ∀ O₁ a s₁, Inside N c O₀ s₀ O₁ s₁ → WellBuilt sig O₁ s₁ → P O₁ a s₁ →
      Within sig N c O₀ s₀ s₁ (f a) Q) :
    Within sig N c O₀ s₀ s (x >>= f) Q := by
  refine Gen.Yields.bind hx fun a s₁ h => ?_
  obtain ⟨O₁, hin, hw, hp⟩ := h
  exact hf O₁ a s₁ hin hw hp

theorem pure {a : α} (hin : Inside N c O₀ s₀ O s) (hw : WellBuilt sig O s) (h : P O a s) :
    Within sig N c O₀ s₀ s (Pure.pure a) P :=
  Gen.Yields.pure ⟨O, hin, hw, h⟩

theorem of_run {a : α} (h : ∀ t, ((x.run s).run.run t).1 = .ok (a, s'))
    (hpost : ∃ O', Inside N c O₀ s₀ O' s' ∧ WellBuilt sig O' s' ∧ P O' a s') :
    Within sig N c O₀ s₀ s x P :=
  Gen.Yields.of_run h hpost

/-- A construct generated inside another keeps the outer one inside. -/
theorem of_builds (hN : N ≤ s₀.blocks.size) (hin : Inside N c O₀ s₀ O s) (hw : WellBuilt sig O s)
    (hx : Builds sig O s x P) : Within sig N c O₀ s₀ s x P :=
  Gen.Yields.mono hx fun _ _ h => h.imp fun _ hp => ⟨hin.grow hN hw hp.1, hp.2⟩

/-- The same, keeping how the inner construct grew the state. -/
theorem nested (hN : N ≤ s₀.blocks.size) (hin : Inside N c O₀ s₀ O s) (hw : WellBuilt sig O s)
    (hx : Builds sig O s x P) :
    Within sig N c O₀ s₀ s x fun O' a s' => Grows O s O' s' ∧ P O' a s' :=
  Gen.Yields.mono hx fun _ _ h => h.imp fun _ hp => ⟨hin.grow hN hw hp.1, hp.2.1, hp.1, hp.2.2⟩

/-- A branch from the current block to blocks of the construct, none of which holds a phi and
each of which hangs below a block above the current one. -/
theorem branch (hin : Inside N c O₀ s₀ O s) (hw : WellBuilt sig O s) (hN : 0 < N) {i : Inst}
    (hdst : i.dst? = none) (hphi : i.isPhi = false)
    (htyped : ∀ Γ : Nat → Option Mty, (∀ r < s.nextReg, Γ r = O.type r) →
      i.WellTyped Γ (Mty.ofTy sig.ret))
    (huses : ∀ r, .reg r ∈ i.operands → LiveAt sig O s r s.current)
    (htargets : ∀ b ∈ i.targets, N ≤ b ∧ b < s.blocks.size ∧
      Code.Above O.parent (O.parent b) s.current ∧ s.NoPhi b) :
    Within sig N c O₀ s₀ s (emit i) fun O' _ s' => O' = O ∧ s' = s.emitted i := by
  have hc := hw.current_lt
  have ha : Appendable sig O s i :=
    ⟨htyped, by simp [hdst], huses, fun b hb => ⟨hN.trans_le (htargets b hb).1, (htargets b hb).2⟩,
      by simp [hphi], by simp [Inst.incoming_of_isPhi_false hphi]⟩
  have hconf : Confined N c s (s.emitted i) :=
    Confined.emitted hc hin.confined.current (fun b hb => (htargets b hb).1) (by simp [hphi])
  exact of_run (fun _ => rfl)
    ⟨O, hin.step (Extends.emitted hc i) hconf hin.below, hw.emitted ha, rfl, rfl⟩

/-- Entering a block of the construct below its first block. -/
theorem enter (hin : Inside N c O₀ s₀ O s) (hw : WellBuilt sig O s) (hNb : N ≤ b)
    (hb : b < s.blocks.size) (habove : Code.Above O.parent c b) :
    Within sig N c O₀ s₀ s (positionAt b) fun O' _ s' => O' = O ∧ s' = { s with current := b } :=
  of_run (fun _ => rfl)
    ⟨O, hin.step (Extends.same rfl rfl)
      ⟨.inr hNb, fun _ _ _ _ => rfl, fun _ _ _ _ h _ => h, fun _ _ h => .inl h⟩ habove,
      hw.enter hb, rfl, rfl⟩

/-- A phi at the head of an empty block of the construct, taking a value of type `t` from each
predecessor of the block, gives a ready operand. -/
theorem phi (hN₀ : N ≤ s₀.blocks.size) (hin : Inside N c O₀ s₀ O s) (hw : WellBuilt sig O s)
    {inc : List (Operand × Nat)} {t : Mty} (hN : N ≤ s.current) (h0 : 0 < s.current)
    (hempty : ∀ k, s.inst? s.current k = none) (hnd : (inc.map Prod.snd).Nodup)
    (hpred : ∀ p, p ∈ inc.map Prod.snd ↔ s.Edge p s.current)
    (hinc : ∀ x ∈ inc, x.1.HasType O.type t ∧ ∀ r, x.1 = .reg r → LiveAt sig O s r x.2) :
    Within sig N c O₀ s₀ s (emitValue (.phi · inc)) fun O' o s' => o.Ready sig O' s' t := by
  unfold emitValue
  refine (of_builds hN₀ hin hw (typed_fresh_builds hw t)).bind fun O₁ r s₁ hin₁ hw₁ h₁ => ?_
  obtain ⟨rfl, rfl, rfl⟩ := h₁
  have ha := hw.appendable_fresh (i := .phi s.nextReg inc) (t := t) rfl rfl
    (fun _ => ⟨h0, GenState.len_eq_zero hempty, hnd, hpred⟩)
    (fun r p hm => (hinc _ hm).2 r rfl)
    (fun Γ hΓ hd => ⟨t, fun x hx => Operand.Ready.hasType_of_live hw (hinc x hx).1 (hinc x hx).2 hΓ,
      hd⟩)
    (by simp [Inst.operands])
  have hc := hw₁.current_lt
  have hconf : Confined N c { s with nextReg := s.nextReg + 1 }
      ({ s with nextReg := s.nextReg + 1 }.emitted (.phi s.nextReg inc)) :=
    Confined.emitted hc (.inr hN) (by simp [Inst.targets]) fun _ => hN
  exact of_run (fun _ => rfl)
    ⟨_, hin₁.step (Extends.emitted hc _) hconf hin₁.below, hw₁.emitted ha,
      hw₁.written_ready rfl (by simp [Outline.assign])⟩

end Within

end TypedJit.Codegen

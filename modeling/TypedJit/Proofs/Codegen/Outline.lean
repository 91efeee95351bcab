import TypedJit.Proofs.Machine.Verifier

/-!
The outline of a function being generated.
-/

namespace TypedJit.Codegen

open Machine

/-- Ghost data of a function being generated. -/
structure Outline where
  /-- The block that was current when each block was created; the entry is its own parent. -/
  parent : Nat → Nat
  /-- The machine type of each register. -/
  type : Nat → Option Mty
  /-- The stack slots at the entry, newest first, with their storage types. -/
  slots : List (Nat × Mty)

namespace Outline

/-- Register `r` gets type `t`. -/
def assign (O : Outline) (r : Nat) (t : Mty) : Outline :=
  { O with type := Function.update O.type r (some t) }

/-- Block `b` is created below block `p`. -/
def adopt (O : Outline) (b p : Nat) : Outline :=
  { O with parent := Function.update O.parent b p }

/-- Register `r` becomes a stack slot of storage type `t`. -/
def addSlot (O : Outline) (r : Nat) (t : Mty) : Outline :=
  { O with type := Function.update O.type r (some (.ptr t)), slots := (r, t) :: O.slots }

end Outline

/-- The code of the stack slots at the entry: each slot's `alloca`, then the store of its zero. -/
def slotCode (slots : List (Nat × Mty)) : List Inst :=
  slots.flatMap fun p => [.alloca p.1 p.2, .store (.const (Word.zeroOf p.2)) (.reg p.1)]

namespace GenState

/-- The instruction at position `k` of block `b`. -/
def inst? (s : GenState) (b k : Nat) : Option Inst := (s.blocks[b]?).bind (·.insts[k]?)

/-- The number of instructions of block `b`. -/
def len (s : GenState) (b : Nat) : Nat := ((s.blocks[b]?).map (·.insts.size)).getD 0

/-- The instruction at position `k` of block `b` writes register `r`. -/
def Writes (s : GenState) (r b k : Nat) : Prop := ∃ i, s.inst? b k = some i ∧ i.dst? = some r

/-- Block `p` branches to block `b`. -/
def Edge (s : GenState) (p b : Nat) : Prop := ∃ k i, s.inst? p k = some i ∧ b ∈ i.targets

/-- No phi stands in block `b`. -/
def NoPhi (s : GenState) (b : Nat) : Prop := ∀ k i, s.inst? b k = some i → i.isPhi = false

variable {s s' : GenState} {b k : Nat} {i : Inst}

theorem lt_size_of_inst? (h : s.inst? b k = some i) : b < s.blocks.size := by
  unfold inst? at h
  rcases hb : s.blocks[b]? with _ | blk
  · simp [hb] at h
  · exact (Array.getElem?_eq_some_iff.1 hb).1

theorem lt_len_of_inst? (h : s.inst? b k = some i) : k < s.len b := by
  unfold inst? at h
  rcases hb : s.blocks[b]? with _ | blk
  · simp [hb] at h
  · simp only [hb, Option.bind_some] at h
    simpa [len, hb] using (Array.getElem?_eq_some_iff.1 h).1

/-- Only the blocks matter for the instructions. -/
theorem inst?_of_blocks (h : s'.blocks = s.blocks) : s'.inst? = s.inst? := by
  funext b k
  simp [inst?, h]

theorem len_of_blocks (h : s'.blocks = s.blocks) : s'.len = s.len := by
  funext b
  simp [len, h]

/-- An appended block is empty. -/
theorem inst?_of_push {l : String} (h : s'.blocks = s.blocks.push { label := l }) :
    s'.inst? = s.inst? := by
  funext b k
  simp only [inst?, h, Array.getElem?_push]
  split
  · rename_i hb
    simp [hb]
  · rfl

theorem len_current_of_push {l : String} (h : s'.blocks = s.blocks.push { label := l }) :
    s'.len s.blocks.size = 0 := by
  simp [len, h]

/-- Appending to the current block adds one instruction at its end. -/
theorem inst?_emitted (h : s.current < s.blocks.size) (i : Inst) (b k : Nat) :
    (s.emitted i).inst? b k = if b = s.current ∧ k = s.len b then some i else s.inst? b k := by
  by_cases hb : b = s.current
  · subst hb
    have hblk : s.blocks[s.current]? = some s.blocks[s.current] := Array.getElem?_eq_getElem h
    simp [inst?, emitted, len, Array.getElem?_modify, hblk, Array.getElem?_push]
  · simp [inst?, emitted, Array.getElem?_modify, hb, Ne.symm hb]

@[simp]
theorem size_emitted (s : GenState) (i : Inst) : (s.emitted i).blocks.size = s.blocks.size := by
  simp [emitted]

@[simp]
theorem current_emitted (s : GenState) (i : Inst) : (s.emitted i).current = s.current := rfl

theorem len_emitted (h : s.current < s.blocks.size) (i : Inst) (b : Nat) :
    (s.emitted i).len b = if b = s.current then s.len b + 1 else s.len b := by
  by_cases hb : b = s.current
  · subst hb
    have hblk : s.blocks[s.current]? = some s.blocks[s.current] := Array.getElem?_eq_getElem h
    simp [len, emitted, Array.getElem?_modify, hblk]
  · simp [len, emitted, Array.getElem?_modify, hb, Ne.symm hb]

theorem inst?_len (s : GenState) (b : Nat) : s.inst? b (s.len b) = none := by
  rcases h : s.inst? b (s.len b) with _ | i
  · rfl
  · exact absurd (lt_len_of_inst? h) (lt_irrefl _)

theorem inst?_emitted_eq_some (h : s.current < s.blocks.size) {j : Inst} :
    (s.emitted i).inst? b k = some j ↔
      s.inst? b k = some j ∨ (b = s.current ∧ k = s.len s.current ∧ j = i) := by
  rw [inst?_emitted h]
  by_cases hbk : b = s.current ∧ k = s.len b
  · obtain ⟨rfl, rfl⟩ := hbk
    simp [inst?_len, eq_comm]
  · simp only [hbk, if_false]
    constructor
    · exact .inl
    · rintro (h' | ⟨rfl, rfl, -⟩)
      · exact h'
      · exact absurd ⟨rfl, rfl⟩ hbk

theorem writes_emitted (h : s.current < s.blocks.size) {r : Nat} :
    (s.emitted i).Writes r b k ↔
      s.Writes r b k ∨ (b = s.current ∧ k = s.len s.current ∧ i.dst? = some r) := by
  simp only [Writes, inst?_emitted_eq_some h]
  constructor
  · rintro ⟨j, hj | ⟨hb, hk, rfl⟩, hd⟩
    · exact .inl ⟨j, hj, hd⟩
    · exact .inr ⟨hb, hk, hd⟩
  · rintro (⟨j, hj, hd⟩ | ⟨hb, hk, hd⟩)
    · exact ⟨j, .inl hj, hd⟩
    · exact ⟨i, .inr ⟨hb, hk, rfl⟩, hd⟩

theorem edge_emitted (h : s.current < s.blocks.size) {p : Nat} :
    (s.emitted i).Edge p b ↔ s.Edge p b ∨ (p = s.current ∧ b ∈ i.targets) := by
  simp only [Edge, inst?_emitted_eq_some h]
  constructor
  · rintro ⟨k, j, hj | ⟨hp, -, rfl⟩, hb⟩
    · exact .inl ⟨k, j, hj, hb⟩
    · exact .inr ⟨hp, hb⟩
  · rintro (⟨k, j, hj, hb⟩ | ⟨rfl, hb⟩)
    · exact ⟨k, j, .inl hj, hb⟩
    · exact ⟨s.len s.current, i, .inr ⟨rfl, rfl, rfl⟩, hb⟩

end GenState

/-! ## Well-built states -/

section Invariant

variable (sig : Signature)

/-- Register `r` holds its value at the end of block `b`: it is a parameter, a stack slot, or
written in `b` or in a block above it. -/
def LiveAt (O : Outline) (s : GenState) (r b : Nat) : Prop :=
  r < sig.params.length ∨ (∃ t, (r, t) ∈ O.slots) ∨
    ∃ a k, Code.Above O.parent a b ∧ s.Writes r a k

/-- Register `r` holds its value at position `k` of block `b`. -/
def UsableAt (O : Outline) (s : GenState) (r b k : Nat) : Prop :=
  r < sig.params.length ∨ (∃ t, (r, t) ∈ O.slots) ∨
    ∃ a k', Code.Above O.parent a b ∧ s.Writes r a k' ∧ (a = b → k' < k)

/-- The invariant of code generation for a function of signature `sig`, under the outline `O`. -/
structure WellBuilt (O : Outline) (s : GenState) : Prop where
  current_lt : s.current < s.blocks.size
  root : O.parent 0 = 0
  parent_lt : ∀ b, 0 < b → b < s.blocks.size → O.parent b < b
  params_le : sig.params.length ≤ s.nextReg
  params_typed : ∀ r < sig.params.length, O.type r = (machineSignature sig).1[r]?
  prefix_eq : s.entryPrefix = slotCode O.slots
  slots_typed : ∀ r t, (r, t) ∈ O.slots → O.type r = some (.ptr t)
  slots_range : ∀ r t, (r, t) ∈ O.slots → sig.params.length ≤ r ∧ r < s.nextReg
  slots_nodup : (O.slots.map Prod.fst).Nodup
  writes_range : ∀ r b k, s.Writes r b k → sig.params.length ≤ r ∧ r < s.nextReg
  writes_once : ∀ r b k b' k', s.Writes r b k → s.Writes r b' k' → b = b' ∧ k = k'
  writes_not_slot : ∀ r b k t, s.Writes r b k → (r, t) ∉ O.slots
  /-- Typed under every type map that agrees with the outline on the registers taken so far. -/
  typed : ∀ b k i, s.inst? b k = some i → ∀ Γ : Nat → Option Mty,
    (∀ r < s.nextReg, Γ r = O.type r) → i.WellTyped Γ (Mty.ofTy sig.ret)
  targets : ∀ p k i, s.inst? p k = some i → ∀ b ∈ i.targets,
    0 < b ∧ b < s.blocks.size ∧ Code.Above O.parent (O.parent b) p
  phis : ∀ b k i, s.inst? b k = some i → i.isPhi = true → 0 < b ∧ k = 0 ∧
    (i.incoming.map Prod.snd).Nodup ∧ ∀ p, p ∈ i.incoming.map Prod.snd ↔ s.Edge p b
  uses : ∀ b k i, s.inst? b k = some i → ∀ r, .reg r ∈ i.operands → UsableAt sig O s r b k
  incoming : ∀ b k i, s.inst? b k = some i → ∀ r p, (.reg r, p) ∈ i.incoming →
    LiveAt sig O s r p
  /-- Every local name is bound to a stack slot of its storage type. -/
  scope : ∀ nm bd, (nm, bd) ∈ s.scope.locals →
    ∃ m, Mty.storage bd.ty = some m ∧ (bd.storage, m) ∈ O.slots

end Invariant

/-- The outline and the state have grown: blocks, instructions, slots and registers are kept,
with their parents and types. -/
structure Extends (O : Outline) (s : GenState) (O' : Outline) (s' : GenState) : Prop where
  size_le : s.blocks.size ≤ s'.blocks.size
  insts : ∀ b k i, s.inst? b k = some i → s'.inst? b k = some i
  parent : ∀ b < s.blocks.size, O'.parent b = O.parent b
  type : ∀ r < s.nextReg, O'.type r = O.type r
  slots : ∀ x ∈ O.slots, x ∈ O'.slots
  nextReg_le : s.nextReg ≤ s'.nextReg

/-- From `s` to `s'` only block `c` and the blocks from `N` on changed, phis were added and
branches made only to the latter, and control is in one of them. -/
structure Confined (N c : Nat) (s s' : GenState) : Prop where
  current : s'.current = c ∨ N ≤ s'.current
  others : ∀ b < N, b ≠ c → ∀ k, s'.inst? b k = s.inst? b k
  phis : ∀ b < N, ∀ k i, s'.inst? b k = some i → i.isPhi = true → s.inst? b k = some i
  edges : ∀ p b, s'.Edge p b → s.Edge p b ∨ N ≤ b

/-- Generation inside a construct started in block `c` with `N` blocks: the outline grows, the
construct is confined to `c` and its own blocks, and control stays below `c`. -/
structure Inside (N c : Nat) (O : Outline) (s : GenState) (O' : Outline) (s' : GenState) :
    Prop where
  grown : Extends O s O' s'
  confined : Confined N c s s'
  below : Code.Above O'.parent c s'.current

/-- The generation of a construct from `s`. -/
abbrev Grows (O : Outline) (s : GenState) (O' : Outline) (s' : GenState) : Prop :=
  Inside s.blocks.size s.current O s O' s'

variable {sig : Signature} {O O' O₁ O₂ : Outline} {s s' s₁ s₂ : GenState} {N c : Nat}

namespace WellBuilt

theorem parent_closed (h : WellBuilt sig O s) : ∀ x < s.blocks.size, O.parent x < s.blocks.size := by
  intro x hx
  rcases Nat.eq_zero_or_pos x with rfl | hpos
  · rw [h.root]
    exact hx
  · exact (h.parent_lt x hpos hx).trans hx

/-- Growing keeps what is above a block that existed. -/
theorem above_extend (h : WellBuilt sig O s) (he : Extends O s O' s') {a b : Nat}
    (hb : b < s.blocks.size) (hab : Code.Above O.parent a b) : Code.Above O'.parent a b :=
  Code.Above.congr h.parent_closed he.parent hb hab

theorem lt_nextReg (h : WellBuilt sig O s) {r b : Nat} (hr : LiveAt sig O s r b) :
    r < s.nextReg := by
  rcases hr with hp | ⟨t, ht⟩ | ⟨a, k, -, hw⟩
  · exact hp.trans_le h.params_le
  · exact (h.slots_range r t ht).2
  · exact (h.writes_range r a k hw).2

end WellBuilt

namespace Extends

theorem refl (O : Outline) (s : GenState) : Extends O s O s :=
  ⟨le_rfl, fun _ _ _ h => h, fun _ _ => rfl, fun _ _ => rfl, fun _ h => h, le_rfl⟩

theorem trans (h₁ : Extends O s O₁ s₁) (h₂ : Extends O₁ s₁ O₂ s₂) : Extends O s O₂ s₂ where
  size_le := h₁.size_le.trans h₂.size_le
  insts b k i h := h₂.insts b k i (h₁.insts b k i h)
  parent b hb := (h₂.parent b (hb.trans_le h₁.size_le)).trans (h₁.parent b hb)
  type r hr := (h₂.type r (hr.trans_le h₁.nextReg_le)).trans (h₁.type r hr)
  slots x hx := h₂.slots x (h₁.slots x hx)
  nextReg_le := h₁.nextReg_le.trans h₂.nextReg_le

theorem writes (he : Extends O s O' s') {r b k : Nat} (h : s.Writes r b k) : s'.Writes r b k := by
  obtain ⟨i, hi, hd⟩ := h
  exact ⟨i, he.insts b k i hi, hd⟩

theorem edge (he : Extends O s O' s') {p b : Nat} (h : s.Edge p b) : s'.Edge p b := by
  obtain ⟨k, i, hi, hb⟩ := h
  exact ⟨k, i, he.insts p k i hi, hb⟩

end Extends

namespace Confined

theorem refl (h : s.current = c ∨ N ≤ s.current) : Confined N c s s :=
  ⟨h, fun _ _ _ _ => rfl, fun _ _ _ _ h _ => h, fun _ _ h => .inl h⟩

theorem trans (h₁ : Confined N c s s₁) (h₂ : Confined N c s₁ s₂) : Confined N c s s₂ where
  current := h₂.current
  others b hb hc k := (h₂.others b hb hc k).trans (h₁.others b hb hc k)
  phis b hb k i h hp := h₁.phis b hb k i (h₂.phis b hb k i h hp) hp
  edges p b h := (h₂.edges p b h).elim (h₁.edges p b) .inr

/-- A construct inside another one is confined by the outer one's bounds. -/
theorem weaken {N' c' : Nat} (h : Confined N' c' s s') (hN : N ≤ N') (hc : c' = c ∨ N ≤ c') :
    Confined N c s s' where
  current := by
    rcases h.current with h' | h'
    · rcases hc with rfl | hc
      · exact .inl h'
      · exact .inr (h' ▸ hc)
    · exact .inr (hN.trans h')
  others b hb hbc k := by
    refine h.others b (hb.trans_le hN) ?_ k
    rcases hc with rfl | hc
    · exact hbc
    · omega
  phis b hb := h.phis b (hb.trans_le hN)
  edges p b hpb := (h.edges p b hpb).imp_right hN.trans

end Confined

theorem Grows.refl (O : Outline) (s : GenState) : Grows O s O s :=
  ⟨Extends.refl O s, Confined.refl (.inl rfl), Code.Above.refl _⟩

/-- A construct generated inside another keeps the outer one inside. -/
theorem Inside.grow (hN : N ≤ s.blocks.size) (hin : Inside N c O s O₁ s₁)
    (hw₁ : WellBuilt sig O₁ s₁) (hg : Grows O₁ s₁ O₂ s₂) : Inside N c O s O₂ s₂ where
  grown := hin.grown.trans hg.grown
  confined := hin.confined.trans
    (hg.confined.weaken (hN.trans hin.grown.size_le) hin.confined.current)
  below := (hw₁.above_extend hg.grown hw₁.current_lt hin.below).trans hg.below

theorem Grows.trans (h₁ : Grows O s O₁ s₁) (hw₁ : WellBuilt sig O₁ s₁) (h₂ : Grows O₁ s₁ O₂ s₂) :
    Grows O s O₂ s₂ :=
  h₁.grow le_rfl hw₁ h₂

/-! ## Holding values -/

namespace LiveAt

variable {r a b : Nat}

theorem extend (hw : WellBuilt sig O s) (he : Extends O s O' s') (hb : b < s.blocks.size)
    (h : LiveAt sig O s r b) : LiveAt sig O' s' r b := by
  rcases h with hp | ⟨t, ht⟩ | ⟨a, k, hab, hwr⟩
  · exact .inl hp
  · exact .inr (.inl ⟨t, he.slots _ ht⟩)
  · exact .inr (.inr ⟨a, k, hw.above_extend he hb hab, he.writes hwr⟩)

theorem below (h : LiveAt sig O s r a) (hab : Code.Above O.parent a b) : LiveAt sig O s r b := by
  rcases h with hp | hs | ⟨a', k, ha', hwr⟩
  · exact .inl hp
  · exact .inr (.inl hs)
  · exact .inr (.inr ⟨a', k, ha'.trans hab, hwr⟩)

/-- What holds its value in the current block still does after a construct. -/
theorem grow (hw : WellBuilt sig O s) (hg : Grows O s O' s') (h : LiveAt sig O s r s.current) :
    LiveAt sig O' s' r s'.current :=
  (h.extend hw hg.grown hw.current_lt).below hg.below

theorem mono (hs : ∀ x ∈ O.slots, x ∈ O'.slots) (hp : O'.parent = O.parent)
    (hw : ∀ r a k, s.Writes r a k → s'.Writes r a k) (h : LiveAt sig O s r b) :
    LiveAt sig O' s' r b := by
  rcases h with hpar | ⟨t, ht⟩ | ⟨a, k, hab, hwr⟩
  · exact .inl hpar
  · exact .inr (.inl ⟨t, hs _ ht⟩)
  · exact .inr (.inr ⟨a, k, hp ▸ hab, hw r a k hwr⟩)

end LiveAt

theorem UsableAt.mono (hs : ∀ x ∈ O.slots, x ∈ O'.slots) (hp : O'.parent = O.parent)
    (hw : ∀ r a k, s.Writes r a k → s'.Writes r a k) {r b k : Nat} (h : UsableAt sig O s r b k) :
    UsableAt sig O' s' r b k := by
  rcases h with hpar | ⟨t, ht⟩ | ⟨a, k', hab, hwr, hk⟩
  · exact .inl hpar
  · exact .inr (.inl ⟨t, hs _ ht⟩)
  · exact .inr (.inr ⟨a, k', hp ▸ hab, hw r a k' hwr, hk⟩)

theorem UsableAt.extend (hw : WellBuilt sig O s) (he : Extends O s O' s') {r b k : Nat}
    (hb : b < s.blocks.size) (h : UsableAt sig O s r b k) : UsableAt sig O' s' r b k := by
  rcases h with hp | ⟨t, ht⟩ | ⟨a, k', hab, hwr, hk⟩
  · exact .inl hp
  · exact .inr (.inl ⟨t, he.slots _ ht⟩)
  · exact .inr (.inr ⟨a, k', hw.above_extend he hb hab, he.writes hwr, hk⟩)

/-! ## Steps -/

section Steps

variable {r : Nat} {t : Mty}

/-- What an instruction appended to the current block must satisfy to keep the state well built:
its types, a fresh register to write, registers that hold their values, branches that leave a
block below their targets' parents and go to blocks without phis, and a phi only at the head of
a block other than the entry, with one value per predecessor. -/
structure Appendable (sig : Signature) (O : Outline) (s : GenState) (i : Inst) : Prop where
  typed : ∀ Γ : Nat → Option Mty, (∀ r < s.nextReg, Γ r = O.type r) →
    i.WellTyped Γ (Mty.ofTy sig.ret)
  dst : ∀ r, i.dst? = some r → sig.params.length ≤ r ∧ r < s.nextReg ∧
    (∀ b k, ¬ s.Writes r b k) ∧ ∀ t, (r, t) ∉ O.slots
  uses : ∀ r, .reg r ∈ i.operands → LiveAt sig O s r s.current
  targets : ∀ b ∈ i.targets, 0 < b ∧ b < s.blocks.size ∧
    Code.Above O.parent (O.parent b) s.current ∧ s.NoPhi b
  phi : i.isPhi = true → 0 < s.current ∧ s.len s.current = 0 ∧
    (i.incoming.map Prod.snd).Nodup ∧ ∀ p, p ∈ i.incoming.map Prod.snd ↔ s.Edge p s.current
  incoming : ∀ r p, (.reg r, p) ∈ i.incoming → LiveAt sig O s r p

namespace WellBuilt

theorem fresh (h : WellBuilt sig O s) : WellBuilt sig O { s with nextReg := s.nextReg + 1 } :=
  { h with
    params_le := h.params_le.trans (Nat.le_succ _)
    slots_range := fun r t ht => ⟨(h.slots_range r t ht).1, (h.slots_range r t ht).2.trans_le (Nat.le_succ _)⟩
    writes_range := fun r b k hw => ⟨(h.writes_range r b k hw).1, (h.writes_range r b k hw).2.trans_le (Nat.le_succ _)⟩
    typed := fun b k i hi Γ hΓ => h.typed b k i hi Γ fun r hr => hΓ r (hr.trans_le (Nat.le_succ _)) }

/-- A register not taken yet may get any type. -/
theorem assign (h : WellBuilt sig O s) (hr : s.nextReg ≤ r) (t : Mty) :
    WellBuilt sig (O.assign r t) s :=
  { h with
    params_typed := fun r' hr' => by
      have := h.params_le
      rw [← h.params_typed r' hr']
      exact Function.update_of_ne (by omega) _ _
    slots_typed := fun r' t' ht => by
      have := (h.slots_range r' t' ht).2
      rw [← h.slots_typed r' t' ht]
      exact Function.update_of_ne (by omega) _ _
    typed := fun b k i hi Γ hΓ => h.typed b k i hi Γ fun r' hr' => by
      rw [hΓ r' hr']
      exact Function.update_of_ne (by omega) _ _ }

theorem enter (h : WellBuilt sig O s) {b : Nat} (hb : b < s.blocks.size) :
    WellBuilt sig O { s with current := b } :=
  { h with current_lt := hb }

/-- Appending an instruction that is appendable keeps the state well built. -/
theorem emitted (h : WellBuilt sig O s) (ha : Appendable sig O s i) :
    WellBuilt sig O (s.emitted i) := by
  have hc := h.current_lt
  have hinst := fun b k j => GenState.inst?_emitted_eq_some (i := i) (b := b) (k := k) (j := j) hc
  have hwr := fun r b k => GenState.writes_emitted (i := i) (r := r) (b := b) (k := k) hc
  have hmono : ∀ r a k, s.Writes r a k → (s.emitted i).Writes r a k :=
    fun r a k hw => (hwr r a k).2 (.inl hw)
  refine { h with
    current_lt := ?_
    parent_lt := ?_
    writes_range := ?_
    writes_once := ?_
    writes_not_slot := ?_
    typed := ?_
    targets := ?_
    phis := ?_
    uses := ?_
    incoming := ?_ }
  · simpa using hc
  · simpa using h.parent_lt
  · intro r b k hw
    rcases (hwr r b k).1 hw with hw | ⟨-, -, hd⟩
    · exact h.writes_range r b k hw
    · exact ⟨(ha.dst r hd).1, (ha.dst r hd).2.1⟩
  · intro r b k b' k' hw hw'
    rcases (hwr r b k).1 hw with hw | ⟨rfl, rfl, hd⟩ <;>
      rcases (hwr r b' k').1 hw' with hw' | ⟨rfl, rfl, hd'⟩
    · exact h.writes_once r b k b' k' hw hw'
    · exact absurd hw ((ha.dst r hd').2.2.1 b k)
    · exact absurd hw' ((ha.dst r hd).2.2.1 b' k')
    · exact ⟨rfl, rfl⟩
  · intro r b k t hw
    rcases (hwr r b k).1 hw with hw | ⟨-, -, hd⟩
    · exact h.writes_not_slot r b k t hw
    · exact (ha.dst r hd).2.2.2 t
  · intro b k j hj Γ hΓ
    rcases (hinst b k j).1 hj with hj | ⟨-, -, rfl⟩
    · exact h.typed b k j hj Γ hΓ
    · exact ha.typed Γ hΓ
  · intro p k j hj b hb
    simp only [GenState.size_emitted]
    rcases (hinst p k j).1 hj with hj | ⟨rfl, -, rfl⟩
    · exact h.targets p k j hj b hb
    · exact ⟨(ha.targets b hb).1, (ha.targets b hb).2.1, (ha.targets b hb).2.2.1⟩
  · intro b k j hj hphi
    rcases (hinst b k j).1 hj with hj | ⟨rfl, rfl, rfl⟩
    · obtain ⟨h0, hk, hnd, hpred⟩ := h.phis b k j hj hphi
      refine ⟨h0, hk, hnd, fun p => (hpred p).trans ?_⟩
      -- no branch is added to a block holding a phi
      rw [GenState.edge_emitted hc]
      refine ⟨.inl, ?_⟩
      rintro (he | ⟨-, hb⟩)
      · exact he
      · simp [(ha.targets b hb).2.2.2 k j hj] at hphi
    · obtain ⟨h0, hlen, hnd, hpred⟩ := ha.phi hphi
      refine ⟨h0, hlen, hnd, fun p => (hpred p).trans ?_⟩
      rw [GenState.edge_emitted hc, Inst.targets_of_isPhi hphi]
      simp
  · intro b k j hj r hr
    rcases (hinst b k j).1 hj with hj | ⟨rfl, rfl, rfl⟩
    · exact (h.uses b k j hj r hr).mono (fun _ h => h) rfl hmono
    · -- a register holding its value in the current block may be read at its end
      rcases ha.uses r hr with hp | hs | ⟨a, k', hab, hw⟩
      · exact .inl hp
      · exact .inr (.inl hs)
      · refine .inr (.inr ⟨a, k', hab, hmono r a k' hw, fun hac => ?_⟩)
        subst hac
        obtain ⟨j, hj, -⟩ := hw
        exact GenState.lt_len_of_inst? hj
  · intro b k j hj r p hin
    rcases (hinst b k j).1 hj with hj | ⟨-, -, rfl⟩
    · exact (h.incoming b k j hj r p hin).mono (fun _ h => h) rfl hmono
    · exact (ha.incoming r p hin).mono (fun _ h => h) rfl hmono

end WellBuilt

theorem Extends.assign (hr : s.nextReg ≤ r) (t : Mty) : Extends O s (O.assign r t) s :=
  { Extends.refl O s with type := fun r' hr' => Function.update_of_ne (by omega) _ _ }

theorem Extends.emitted (hc : s.current < s.blocks.size) (i : Inst) : Extends O s O (s.emitted i) :=
  { Extends.refl O s with
    size_le := by simp
    insts := fun b k j hj => (GenState.inst?_emitted_eq_some hc).2 (.inl hj) }

/-- Appending to a block of the construct changes only that block, and adds branches and phis
only to the construct's own blocks. -/
theorem Confined.emitted (hc : s.current < s.blocks.size) (hcur : s.current = c ∨ N ≤ s.current)
    (htargets : ∀ b ∈ i.targets, N ≤ b) (hphi : i.isPhi = true → N ≤ s.current) :
    Confined N c s (s.emitted i) where
  current := hcur
  others b hb hbc k := by
    have hne : b ≠ s.current := by
      rcases hcur with h | h
      · exact h ▸ hbc
      · omega
    rw [GenState.inst?_emitted hc]
    simp [hne]
  phis b hb k j hj hp := by
    rcases (GenState.inst?_emitted_eq_some hc).1 hj with hj | ⟨rfl, -, rfl⟩
    · exact hj
    · exact absurd (hphi hp) (by omega)
  edges p b he := by
    rcases (GenState.edge_emitted hc).1 he with he | ⟨-, hb⟩
    · exact .inl he
    · exact .inr (htargets b hb)

end Steps

/-! ## Creating blocks, slots and names -/

section Creating

variable {r : Nat} {t : Mty} {l : String}

namespace WellBuilt

theorem extends_push (h : WellBuilt sig O s) (hb : s'.blocks = s.blocks.push { label := l })
    (hn : s'.nextReg = s.nextReg) : Extends O s (O.adopt s.blocks.size s.current) s' where
  size_le := by simp [hb]
  insts b k j hj := by rwa [GenState.inst?_of_push hb]
  parent b hb' := Function.update_of_ne (Nat.ne_of_lt hb') _ _
  type _ _ := rfl
  slots _ hx := hx
  nextReg_le := hn.ge

/-- An appended block hangs below the current block. -/
theorem push (h : WellBuilt sig O s) (hb : s'.blocks = s.blocks.push { label := l })
    (hc : s'.current = s.current) (hn : s'.nextReg = s.nextReg)
    (hp : s'.entryPrefix = s.entryPrefix) (hsc : s'.scope = s.scope) :
    WellBuilt sig (O.adopt s.blocks.size s.current) s' := by
  have hcur := h.current_lt
  have he := h.extends_push hb hn
  have hi := GenState.inst?_of_push hb
  have hsize : s'.blocks.size = s.blocks.size + 1 := by simp [hb]
  have hW : ∀ r b k, s'.Writes r b k ↔ s.Writes r b k := by simp [GenState.Writes, hi]
  have hE : ∀ p b, s'.Edge p b ↔ s.Edge p b := by simp [GenState.Edge, hi]
  refine
    { current_lt := by omega
      root := ?_
      parent_lt := ?_
      params_le := (hn ▸ h.params_le)
      params_typed := h.params_typed
      prefix_eq := (hp ▸ h.prefix_eq)
      slots_typed := h.slots_typed
      slots_range := (hn ▸ h.slots_range)
      slots_nodup := h.slots_nodup
      writes_range := ?_
      writes_once := ?_
      writes_not_slot := ?_
      typed := ?_
      targets := ?_
      phis := ?_
      uses := ?_
      incoming := ?_
      scope := (hsc ▸ h.scope) }
  · simp only [Outline.adopt]
    rw [Function.update_of_ne (show 0 ≠ s.blocks.size by omega)]
    exact h.root
  · intro b hb0 hbs
    by_cases hbn : b = s.blocks.size
    · subst hbn
      simpa [Outline.adopt] using hcur
    · rw [he.parent b (by omega)]
      exact h.parent_lt b hb0 (by omega)
  · intro r b k hw
    rw [hn]
    exact h.writes_range r b k ((hW r b k).1 hw)
  · intro r b k b' k' hw hw'
    exact h.writes_once r b k b' k' ((hW r b k).1 hw) ((hW r b' k').1 hw')
  · intro r b k t hw
    exact h.writes_not_slot r b k t ((hW r b k).1 hw)
  · intro b k j hj Γ hΓ
    rw [hi] at hj
    exact h.typed b k j hj Γ (hn ▸ hΓ)
  · intro p k j hj b hbt
    rw [hi] at hj
    obtain ⟨h0, hlt, hab⟩ := h.targets p k j hj b hbt
    refine ⟨h0, by omega, ?_⟩
    rw [he.parent b hlt]
    exact h.above_extend he (GenState.lt_size_of_inst? hj) hab
  · intro b k j hj hphi
    rw [hi] at hj
    obtain ⟨h0, hk, hnd, hpred⟩ := h.phis b k j hj hphi
    exact ⟨h0, hk, hnd, fun p => (hpred p).trans (hE p b).symm⟩
  · intro b k j hj r hr
    rw [hi] at hj
    exact (h.uses b k j hj r hr).extend h he (GenState.lt_size_of_inst? hj)
  · intro b k j hj r p hin
    rw [hi] at hj
    -- a predecessor of a block exists
    have hphi := Inst.isPhi_of_mem_incoming hin
    obtain ⟨k', j', hj', -⟩ := ((h.phis b k j hj hphi).2.2.2 p).1
      (List.mem_map.2 ⟨_, hin, rfl⟩)
    exact (h.incoming b k j hj r p hin).extend h he (GenState.lt_size_of_inst? hj')

/-- A new stack slot takes the next register. -/
theorem allocated (h : WellBuilt sig O s) (t : Mty) :
    WellBuilt sig (O.addSlot s.nextReg t)
      { s with nextReg := s.nextReg + 1,
               entryPrefix := [.alloca s.nextReg t, .store (.const (Word.zeroOf t)) (.reg s.nextReg)] ++
                 s.entryPrefix } := by
  have hsub : ∀ x ∈ O.slots, x ∈ (O.addSlot s.nextReg t).slots := fun x hx => List.mem_cons_of_mem _ hx
  have hold : ∀ r', r' < s.nextReg → (O.addSlot s.nextReg t).type r' = O.type r' :=
    fun r' hr' => Function.update_of_ne (Nat.ne_of_lt hr') _ _
  refine { h with
    params_le := h.params_le.trans (Nat.le_succ _)
    params_typed := fun r' hr' => (hold r' (hr'.trans_le h.params_le)).trans (h.params_typed r' hr')
    prefix_eq := by simp [slotCode, h.prefix_eq, Outline.addSlot]
    slots_typed := ?_
    slots_range := ?_
    slots_nodup := ?_
    writes_range := fun r b k hw =>
      ⟨(h.writes_range r b k hw).1, (h.writes_range r b k hw).2.trans_le (Nat.le_succ _)⟩
    writes_not_slot := ?_
    typed := fun b k i hi Γ hΓ => h.typed b k i hi Γ fun r' hr' =>
      (hΓ r' (hr'.trans_le (Nat.le_succ _))).trans (hold r' hr')
    uses := fun b k i hi r hr => (h.uses b k i hi r hr).mono hsub rfl fun _ _ _ hw => hw
    incoming := fun b k i hi r p hin => (h.incoming b k i hi r p hin).mono hsub rfl fun _ _ _ hw => hw
    scope := fun nm bd hbd => by
      obtain ⟨m, hm, hs⟩ := h.scope nm bd hbd
      exact ⟨m, hm, hsub _ hs⟩ }
  · intro r' t' ht
    rcases List.mem_cons.1 ht with heq | ht
    · cases heq
      simp [Outline.addSlot]
    · exact (hold r' (h.slots_range r' t' ht).2).trans (h.slots_typed r' t' ht)
  · intro r' t' ht
    rcases List.mem_cons.1 ht with heq | ht
    · cases heq
      exact ⟨h.params_le, Nat.lt_succ_self _⟩
    · exact ⟨(h.slots_range r' t' ht).1, (h.slots_range r' t' ht).2.trans_le (Nat.le_succ _)⟩
  · refine List.nodup_cons.2 ⟨fun hr => ?_, h.slots_nodup⟩
    obtain ⟨⟨r', t'⟩, ht, hr'⟩ := List.mem_map.1 hr
    have := (h.slots_range r' t' ht).2
    simp only at hr'
    omega
  · intro r' b k t' hw ht
    rcases List.mem_cons.1 ht with heq | ht
    · cases heq
      exact absurd (h.writes_range _ b k hw).2 (lt_irrefl _)
    · exact h.writes_not_slot r' b k t' hw ht

/-- Binding names to stack slots of their storage types keeps the state well built. -/
theorem declare (h : WellBuilt sig O s) {sc : Scope Nat}
    (hsc : ∀ nm bd, (nm, bd) ∈ sc.locals →
      ∃ m, Mty.storage bd.ty = some m ∧ (bd.storage, m) ∈ O.slots) :
    WellBuilt sig O { s with scope := sc } :=
  { h with scope := hsc }

end WellBuilt

/-- A step that keeps the instructions and the current block grows the state. -/
theorem Grows.of_inst? (hi : s'.inst? = s.inst?) (hc : s'.current = s.current)
    (he : Extends O s O' s') : Grows O s O' s' where
  grown := he
  confined := ⟨.inl hc, fun b _ _ k => by rw [hi], fun b _ k i h _ => by rwa [hi] at h,
    fun p b h => .inl (by simpa [GenState.Edge, hi] using h)⟩
  below := hc ▸ Code.Above.refl _

/-- Appending an instruction that neither branches nor is a phi grows the state. -/
theorem Grows.emitted (hc : s.current < s.blocks.size) {i : Inst} (ht : i.targets = [])
    (hp : i.isPhi = false) : Grows O s O (s.emitted i) where
  grown := Extends.emitted hc i
  confined := Confined.emitted hc (.inl rfl) (by simp [ht]) (by simp [hp])
  below := Code.Above.refl _

/-- One more step inside a construct. -/
theorem Inside.step {O₀ : Outline} {s₀ : GenState} (hin : Inside N c O₀ s₀ O s)
    (he : Extends O s O' s') (hc : Confined N c s s') (hb : Code.Above O'.parent c s'.current) :
    Inside N c O₀ s₀ O' s' :=
  ⟨hin.grown.trans he, hin.confined.trans hc, hb⟩

end Creating

end TypedJit.Codegen

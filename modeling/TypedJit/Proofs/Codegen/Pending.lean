import Mathlib.Data.Set.Insert
import TypedJit.Proofs.Codegen.Callees

/-!
Blocks left to fill.
-/

namespace TypedJit.Machine

/-- The block ends in a terminator. -/
def Block.ended (b : Block) : Bool := b.insts.back?.any Inst.isTerminator

/-- No instruction of the block but the last is a terminator. -/
def Block.tidy (b : Block) : Bool := b.insts.pop.all fun i => !i.isTerminator

@[simp]
theorem Block.ended_push (b : Block) (i : Inst) :
    ({ b with insts := b.insts.push i } : Block).ended = i.isTerminator := by
  simp [Block.ended]

/-- Appending to a block that has not ended keeps it tidy. -/
theorem Block.tidy_push {b : Block} (i : Inst) (ht : b.tidy = true) (he : b.ended = false) :
    ({ b with insts := b.insts.push i } : Block).tidy = true := by
  simp only [Block.tidy, Array.pop_push, Array.all_eq_true] at ht ⊢
  intro k hk
  -- every instruction but the last is covered by tidiness, the last one by not having ended
  by_cases hlast : k + 1 = b.insts.size
  · have hback : b.insts.back? = some b.insts[k] := by
      rw [Array.back?_eq_getElem?, ← hlast]
      simp
    simp [Block.ended, hback] at he
    simp [he]
  · have hk' : k < b.insts.pop.size := by simp; omega
    simpa using ht k hk'

@[simp]
theorem Block.ended_empty (l : String) : ({ label := l } : Block).ended = false := rfl

@[simp]
theorem Block.tidy_empty (l : String) : ({ label := l } : Block).tidy = true := by
  simp [Block.tidy]

/-- Code is well terminated when each of its blocks has ended and is tidy. -/
theorem Code.wellTerminated_iff (c : Code) :
    c.wellTerminated = true ↔ ∀ b ∈ c.blocks, b.ended = true ∧ b.tidy = true := by
  unfold Code.wellTerminated
  rw [Array.all_eq_true_iff_forall_mem]
  refine forall₂_congr fun b _ => ?_
  cases h : b.insts.back? <;> simp [Block.ended, Block.tidy, h]

end TypedJit.Machine

namespace TypedJit.Codegen

open Std.Do Machine

set_option mvcgen.warning false

/-- The blocks other than the current one that have not ended. -/
def GenState.Pending (s : GenState) : Set Nat :=
  {k | k ≠ s.current ∧ ∃ b, s.blocks[k]? = some b ∧ b.ended = false}

/-- The current block ends in a terminator: what `isTerminated` reads. -/
def GenState.terminated (s : GenState) : Bool := (s.blocks[s.current]?).any Block.ended

/-- Every block so far is tidy, the stack slots placed at the entry are no terminators, and the
current block exists. -/
structure GenState.Tidy (s : GenState) : Prop where
  blocks : ∀ (k : Nat) (b : Block), s.blocks[k]? = some b → b.tidy = true
  entry : ∀ i ∈ s.entryPrefix, i.isTerminator = false
  current_lt : s.current < s.blocks.size

variable {s s' : GenState}

theorem GenState.Tidy.frame (h : s.Tidy) (hb : s'.blocks = s.blocks)
    (hp : s'.entryPrefix = s.entryPrefix) (hc : s'.current = s.current) : s'.Tidy :=
  ⟨hb ▸ h.blocks, hp ▸ h.entry, hb ▸ hc ▸ h.current_lt⟩

theorem GenState.pending_frame (hb : s'.blocks = s.blocks) (hc : s'.current = s.current) :
    s'.Pending = s.Pending := by
  simp [GenState.Pending, hb, hc]

theorem GenState.terminated_frame (hb : s'.blocks = s.blocks) (hc : s'.current = s.current) :
    s'.terminated = s.terminated := by
  simp [GenState.terminated, hb, hc]

/-! ### Appending to the current block -/

@[simp]
theorem GenState.pending_emitted (i : Inst) : (s.emitted i).Pending = s.Pending := by
  ext k
  simp only [GenState.Pending, GenState.emitted, Set.mem_ofPred_eq, Array.getElem?_modify]
  constructor <;> rintro ⟨hk, hb⟩ <;> simp_all [Ne.symm hk]

theorem GenState.terminated_emitted (h : s.Tidy) (i : Inst) :
    (s.emitted i).terminated = i.isTerminator := by
  have hlt := h.current_lt
  have hc : s.blocks[s.current]? = some s.blocks[s.current] := Array.getElem?_eq_getElem hlt
  simp [GenState.terminated, GenState.emitted, Array.getElem?_modify, hc]

theorem GenState.Tidy.emitted (h : s.Tidy) (ho : s.terminated = false) (i : Inst) :
    (s.emitted i).Tidy := by
  refine ⟨fun k b hb => ?_, h.entry, by simpa [GenState.emitted] using h.current_lt⟩
  simp only [GenState.emitted, Array.getElem?_modify] at hb
  split at hb
  · rename_i hk
    subst hk
    obtain ⟨b₀, hb₀, rfl⟩ := Option.map_eq_some_iff.1 hb
    have he : b₀.ended = false := by simpa [GenState.terminated, hb₀] using ho
    exact Block.tidy_push i (h.blocks _ b₀ hb₀) he
  · exact h.blocks k b hb

/-! ### Creating a block -/

theorem GenState.pending_push {b : Block} (hb : s'.blocks = s.blocks.push b)
    (hc : s'.current = s.current) (h : s.Tidy) (he : b.ended = false) :
    s'.Pending = Insert.insert s.blocks.size s.Pending := by
  have hne : s.blocks.size ≠ s.current := Nat.ne_of_gt h.current_lt
  ext k
  simp only [GenState.Pending, Set.mem_ofPred_eq, Set.mem_insert_iff, hb, hc,
    Array.getElem?_push]
  by_cases hk : k = s.blocks.size
  · subst hk
    simp [hne, he]
  · simp [hk]

theorem GenState.terminated_push {b : Block} (hb : s'.blocks = s.blocks.push b)
    (hc : s'.current = s.current) (h : s.Tidy) : s'.terminated = s.terminated := by
  simp [GenState.terminated, hb, hc, Array.getElem?_push, Nat.ne_of_lt h.current_lt]

theorem GenState.Tidy.push {b : Block} (h : s.Tidy) (hb : s'.blocks = s.blocks.push b)
    (hp : s'.entryPrefix = s.entryPrefix) (hc : s'.current = s.current) (ht : b.tidy = true) :
    s'.Tidy := by
  refine ⟨fun k b' hb' => ?_, hp ▸ h.entry, ?_⟩
  · rw [hb, Array.getElem?_push] at hb'
    split at hb'
    · cases hb'
      exact ht
    · exact h.blocks k b' hb'
  · rw [hb, hc, Array.size_push]
    exact Nat.lt_succ_of_lt h.current_lt

/-! ### Entering a block -/

theorem GenState.pending_enter {b : Nat} (hb : s'.blocks = s.blocks) (hc : s'.current = b)
    (ht : s.terminated = true) : s'.Pending = s.Pending \ {b} := by
  ext k
  simp only [GenState.Pending, Set.mem_ofPred_eq, Set.mem_sdiff, Set.mem_singleton_iff, hb, hc]
  by_cases hk : k = s.current
  · subst hk
    simp only [GenState.terminated] at ht
    constructor
    · rintro ⟨-, b', hb', he⟩
      simp [hb', he] at ht
    · rintro ⟨⟨hk, -⟩, -⟩
      exact absurd rfl hk
  · constructor
    · rintro ⟨hkb, rest⟩
      exact ⟨⟨hk, rest⟩, hkb⟩
    · rintro ⟨⟨-, rest⟩, hkb⟩
      exact ⟨hkb, rest⟩

theorem GenState.terminated_enter {b : Nat} (hb : s'.blocks = s.blocks) (hc : s'.current = b)
    (hp : b ∈ s.Pending) : s'.terminated = false := by
  obtain ⟨-, b', hb', he⟩ := hp
  simp [GenState.terminated, hb, hc, hb', he]

theorem GenState.Tidy.enter {b : Nat} (h : s.Tidy) (hb : s'.blocks = s.blocks)
    (hp : s'.entryPrefix = s.entryPrefix) (hc : s'.current = b) (hlt : b < s.blocks.size) :
    s'.Tidy :=
  ⟨hb ▸ h.blocks, hp ▸ h.entry, hb ▸ hc ▸ hlt⟩

/-! ### Triples -/

/-- The facts of a state whose current block is still being filled, with `Q` pending. -/
theorem GenState.filling_emitted {Q : Set Nat} {i : Inst}
    (h : s.Pending = Q ∧ s.Tidy ∧ s.terminated = false) (hi : i.isTerminator = false) :
    (s.emitted i).Pending = Q ∧ (s.emitted i).Tidy ∧ (s.emitted i).terminated = false :=
  ⟨(GenState.pending_emitted i).trans h.1, h.2.1.emitted h.2.2 i,
    (GenState.terminated_emitted h.2.1 i).trans hi⟩

/-- Filling the current block while the blocks `Q` wait: the state straight-line code keeps. -/
def filling (Q : Set Nat) : Straight where
  holds s := s.Pending = Q ∧ s.Tidy ∧ s.terminated = false
  fresh _ h := ⟨h.1, h.2.1.frame rfl rfl rfl, h.2.2⟩
  emit _ _ h hi := GenState.filling_emitted h hi.2
  alloca _ _ _ h := by
    refine ⟨h.1, ⟨h.2.1.blocks, ?_, h.2.1.current_lt⟩, h.2.2⟩
    intro i hi
    simp only [List.cons_append, List.nil_append, List.mem_cons] at hi
    rcases hi with rfl | rfl | hi
    · rfl
    · rfl
    · exact h.2.1.entry i hi

variable {Q : Set Nat}

/-- A change that leaves the blocks, the entry's slots and the current block alone keeps a
block being filled. -/
theorem filling_frame (h : (filling Q).holds s) (hb : s'.blocks = s.blocks)
    (hp : s'.entryPrefix = s.entryPrefix) (hc : s'.current = s.current) :
    (filling Q).holds s' :=
  ⟨(GenState.pending_frame hb hc).trans h.1, h.2.1.frame hb hp hc,
    (GenState.terminated_frame hb hc).trans h.2.2⟩

/-- Creating an empty block while filling another adds it to the pending blocks. -/
theorem filling_push {b : Block} (h : (filling Q).holds s) (hb : s'.blocks = s.blocks.push b)
    (hp : s'.entryPrefix = s.entryPrefix) (hc : s'.current = s.current) (he : b.ended = false)
    (ht : b.tidy = true) : (filling (Insert.insert s.blocks.size Q)).holds s' :=
  ⟨h.1 ▸ GenState.pending_push hb hc h.2.1 he, h.2.1.push hb hp hc ht,
    (GenState.terminated_push hb hc h.2.1).trans h.2.2⟩

/-- Entering a pending block, once the current one has ended, starts filling it. -/
theorem filling_enter {b : Nat} (h : s.Pending = Q ∧ s.Tidy ∧ s.terminated = true)
    (hq : b ∈ Q) (hb : s'.blocks = s.blocks) (hp : s'.entryPrefix = s.entryPrefix)
    (hc : s'.current = b) : (filling (Q \ {b})).holds s' := by
  obtain ⟨rfl, ht, he⟩ := h
  have hlt : b < s.blocks.size := by
    obtain ⟨-, b', hb', -⟩ := hq
    exact (Array.getElem?_eq_some_iff.1 hb').1
  exact ⟨GenState.pending_enter hb hc he, ht.enter hb hp hc hlt,
    GenState.terminated_enter hb hc hq⟩

theorem appendBlock_pending (Q : Set Nat) (l : String) :
    ⦃fun s _ => ⌜s.Pending = Q ∧ s.Tidy ∧ s.terminated = false⌝⦄ appendBlock l
    ⦃⇓? k s _ => ⌜(filling (Insert.insert k Q)).holds s ∧ k ∉ Q⌝⦄ := by
  mvcgen [appendBlock, Gen.record]
  have h := ‹GenState.Pending _ = Q ∧ _›
  refine ⟨filling_push h rfl rfl rfl rfl (Block.tidy_empty _), ?_⟩
  -- a pending block exists, and the new one is past the end
  rw [← h.1]
  rintro ⟨-, b, hb, -⟩
  simp at hb

theorem positionAt_enters (Q : Set Nat) (b : Nat) (hb : b ∈ Q) :
    ⦃fun s _ => ⌜s.Pending = Q ∧ s.Tidy ∧ s.terminated = true⌝⦄ positionAt b
    ⦃⇓? _ s _ => ⌜(filling (Q \ {b})).holds s⌝⦄ := by
  mvcgen [positionAt]
  have h := ‹GenState.Pending _ = Q ∧ _›
  exact filling_enter h hb rfl rfl rfl

/-! ### Steps that leave the blocks alone -/

theorem declareLocal_fills (n : String) (ty : Ty) (ptr : Nat) (sp : Span) :
    Keeps (filling Q).holds (declareLocal n ty ptr sp) := by
  mvcgen [declareLocal, Gen.lift]
  have h := ‹(filling Q).holds _›
  exact filling_frame h rfl rfl rfl

theorem declareName_fills (n : String) (ty : Ty) (ptr : Nat) (sp : Span) :
    Keeps (filling Q).holds (genVar.declareName n ty ptr sp) := by
  mvcgen [genVar.declareName, Gen.lift]
  have h := ‹(filling Q).holds _›
  exact filling_frame h rfl rfl rfl

theorem declareCallee_fills (f : FunctionRef) (sp : Span) :
    Keeps (filling Q).holds (declareCallee f sp) := by
  mvcgen [declareCallee, Gen.fail]
  have h := ‹(filling Q).holds _›
  exact filling_frame h rfl rfl rfl

theorem loopBounds_fills (iter : Expr) : Keeps (filling Q).holds (loopBounds iter) := by
  mvcgen [loopBounds, Gen.fail]

theorem genVar_fills (args : List Expr) (kws : List Keyword) (sp : Span) :
    Keeps (filling Q).holds (genVar args kws sp) := by
  have hname := declareName_fills (Q := Q)
  mvcgen [genVar, hname, Gen.lift, Gen.fail] invariants
  · ⇓? _ s _ => ⌜(filling Q).holds s⌝
  -- the slot's precondition is the loop invariant itself
  assumption

end TypedJit.Codegen

import TypedJit.Proofs.Codegen.Statements

/-!
The code assembled from a finished generator state.
-/

namespace TypedJit.Codegen

open Machine

/-! ## The stack slots -/

theorem slotCode_cons (x : Nat × Mty) (xs : List (Nat × Mty)) :
    slotCode (x :: xs) =
      .alloca x.1 x.2 :: .store (.const (Word.zeroOf x.2)) (.reg x.1) :: slotCode xs := rfl

@[simp]
theorem length_slotCode (slots : List (Nat × Mty)) :
    (slotCode slots).length = 2 * slots.length := by
  induction slots with
  | nil => rfl
  | cons x xs ih =>
    rw [slotCode_cons, List.length_cons, List.length_cons, ih, List.length_cons]
    omega

/-- Slot `j`'s `alloca` stands at position `2 j` of the slots' code, the store of its zero right
after it. -/
theorem getElem?_slotCode (slots : List (Nat × Mty)) (j : Nat) :
    (slotCode slots)[2 * j]? = slots[j]?.map (fun x => Inst.alloca x.1 x.2) ∧
    (slotCode slots)[2 * j + 1]? =
      slots[j]?.map (fun x => Inst.store (.const (Word.zeroOf x.2)) (.reg x.1)) := by
  induction slots generalizing j with
  | nil => simp [slotCode]
  | cons x xs ih =>
    cases j with
    | zero => simp [slotCode_cons]
    | succ j =>
      rw [slotCode_cons, show 2 * (j + 1) = 2 * j + 2 by omega]
      simpa using ih j

/-- Every instruction of the slots' code is a slot's `alloca` or the store of its zero. -/
theorem eq_of_slotCode {slots : List (Nat × Mty)} {k : Nat} {i : Inst}
    (h : (slotCode slots)[k]? = some i) :
    ∃ j r t, slots[j]? = some (r, t) ∧ (k = 2 * j ∧ i = .alloca r t ∨
      k = 2 * j + 1 ∧ i = .store (.const (Word.zeroOf t)) (.reg r)) := by
  obtain ⟨j, rfl | rfl⟩ : ∃ j, k = 2 * j ∨ k = 2 * j + 1 := ⟨k / 2, by omega⟩
  · rw [(getElem?_slotCode slots j).1] at h
    obtain ⟨⟨r, t⟩, hx, rfl⟩ := Option.map_eq_some_iff.1 h
    exact ⟨j, r, t, hx, .inl ⟨rfl, rfl⟩⟩
  · rw [(getElem?_slotCode slots j).2] at h
    obtain ⟨⟨r, t⟩, hx, rfl⟩ := Option.map_eq_some_iff.1 h
    exact ⟨j, r, t, hx, .inr ⟨rfl, rfl⟩⟩

/-! ## The assembled code -/

/-- The code `compileFunction` assembles from the state generation ends in. -/
def assembled (symbol : String) (sig : Signature) (st : GenState) : Code :=
  { symbol, sig, registers := st.nextReg,
    blocks := st.blocks.modify 0 fun b => { b with insts := st.entryPrefix.toArray ++ b.insts } }

/-- Where the generated instructions of block `b` start in the assembled code. -/
def GenState.shift (st : GenState) (b : Nat) : Nat := if b = 0 then st.entryPrefix.length else 0

variable {symbol : String} {sig : Signature} {O : Outline} {st : GenState} {b k : Nat} {i : Inst}

theorem assembled_inst? (b k : Nat) : (assembled symbol sig st).inst? b k =
    if b = 0 then (st.blocks[0]?).bind fun blk => (st.entryPrefix.toArray ++ blk.insts)[k]?
    else st.inst? b k := by
  by_cases hb : b = 0
  · subst hb
    simp only [Code.inst?, assembled, Array.getElem?_modify, if_true]
    cases st.blocks[0]? <;> rfl
  · simp [Code.inst?, GenState.inst?, assembled, Array.getElem?_modify, hb, Ne.symm hb]

/-- A generated instruction keeps its place, behind the slots in the entry block. -/
theorem assembled_inst?_shift (h : st.inst? b k = some i) :
    (assembled symbol sig st).inst? b (st.shift b + k) = some i := by
  rw [assembled_inst?]
  by_cases hb : b = 0
  · subst hb
    obtain ⟨blk, hblk, hk⟩ := Option.bind_eq_some_iff.1 h
    simp [hblk, GenState.shift, Array.getElem?_append_right, hk]
  · simpa [hb, GenState.shift] using h

/-- A slot's instruction stands at its place in the entry block. -/
theorem assembled_inst?_prefix (h0 : 0 < st.blocks.size) (h : st.entryPrefix[k]? = some i) :
    (assembled symbol sig st).inst? 0 k = some i := by
  have hk : k < st.entryPrefix.length := (List.getElem?_eq_some_iff.1 h).1
  rw [assembled_inst?, if_pos rfl, Array.getElem?_eq_getElem h0]
  simpa [Array.getElem?_append_left, hk] using h

/-- Every instruction of the assembled code is a slot's or a generated one. -/
theorem assembled_inst?_cases (h : (assembled symbol sig st).inst? b k = some i) :
    b = 0 ∧ st.entryPrefix[k]? = some i ∨
      st.shift b ≤ k ∧ st.inst? b (k - st.shift b) = some i := by
  rw [assembled_inst?] at h
  by_cases hb : b = 0
  · subst hb
    rw [if_pos rfl] at h
    obtain ⟨blk, hblk, hk⟩ := Option.bind_eq_some_iff.1 h
    by_cases hlt : k < st.entryPrefix.length
    · refine .inl ⟨rfl, ?_⟩
      simpa [Array.getElem?_append_left, hlt] using hk
    · refine .inr ⟨by simp [GenState.shift]; omega, ?_⟩
      simpa [GenState.inst?, GenState.shift, hblk, Array.getElem?_append_right,
        Nat.le_of_not_lt hlt] using hk
  · rw [if_neg hb] at h
    exact .inr ⟨by simp [GenState.shift, hb], by simpa [GenState.shift, hb] using h⟩

/-! ## Ended blocks -/

/-- The slots at the head of an ended block leave it ended. -/
theorem Block.ended_prepend {blk : Block} (pre : List Inst) (h : blk.ended = true) :
    ({ blk with insts := pre.toArray ++ blk.insts } : Block).ended = true := by
  cases hb : blk.insts.back? with
  | none => simp [Block.ended, hb] at h
  | some i => simpa [Block.ended, Array.back?_append, hb] using h

/-- Slots that are no terminators, at the head of an ended tidy block, leave it tidy. -/
theorem Block.tidy_prepend {blk : Block} {pre : List Inst}
    (hpre : ∀ i ∈ pre, i.isTerminator = false) (ht : blk.tidy = true) (he : blk.ended = true) :
    ({ blk with insts := pre.toArray ++ blk.insts } : Block).tidy = true := by
  have hne : blk.insts.isEmpty = false := by
    cases h : blk.insts.isEmpty
    · rfl
    · simp [Block.ended, Array.isEmpty_iff.1 h] at he
  have hp : pre.toArray.all (fun i => !i.isTerminator) = true :=
    Array.all_eq_true_iff_forall_mem.2 fun i hi => by simp [hpre i (by simpa using hi)]
  simp only [Block.tidy] at ht ⊢
  simp only [Array.pop_append, hne, Bool.false_eq_true, if_false, Array.all_append, hp, ht,
    Bool.and_self]

/-- With nothing pending and the current block ended, every block has ended. -/
theorem GenState.ended_of_pending (hp : st.Pending = ∅) (ht : st.terminated = true)
    {blk : Block} (h : st.blocks[k]? = some blk) : blk.ended = true := by
  by_cases hk : k = st.current
  · subst hk
    simpa [GenState.terminated, h] using ht
  · by_contra hne
    have hpend : k ∈ st.Pending := ⟨hk, blk, h, by simpa using hne⟩
    rw [hp] at hpend
    exact hpend

/-- Code assembled from a tidy state whose blocks have all ended is well terminated. -/
theorem assembled_wellTerminated (hp : st.Pending = ∅) (ht : st.terminated = true)
    (htidy : st.Tidy) : (assembled symbol sig st).wellTerminated = true := by
  rw [Code.wellTerminated_iff]
  intro blk hblk
  obtain ⟨k, hk⟩ := Array.mem_iff_getElem?.1 hblk
  simp only [assembled, Array.getElem?_modify] at hk
  split at hk
  · -- the entry block, behind the slots
    obtain ⟨blk₀, hblk₀, rfl⟩ := Option.map_eq_some_iff.1 hk
    have he := GenState.ended_of_pending hp ht hblk₀
    exact ⟨Block.ended_prepend _ he, Block.tidy_prepend htidy.entry (htidy.blocks _ _ hblk₀) he⟩
  · exact ⟨GenState.ended_of_pending hp ht hk, htidy.blocks _ _ hk⟩

/-! ## A well-built state, assembled -/

section WellBuilt

variable (hw : WellBuilt sig O st)
include hw

/-- The entry's slot instructions: each slot's `alloca` and the store of its zero. -/
theorem WellBuilt.prefix_cases (h : st.entryPrefix[k]? = some i) :
    ∃ j r t, O.slots[j]? = some (r, t) ∧ (k = 2 * j ∧ i = .alloca r t ∨
      k = 2 * j + 1 ∧ i = .store (.const (Word.zeroOf t)) (.reg r)) := by
  rw [hw.prefix_eq] at h
  exact eq_of_slotCode h

theorem WellBuilt.length_prefix : st.entryPrefix.length = 2 * O.slots.length := by
  rw [hw.prefix_eq, length_slotCode]

/-- Two slots of one register are the same slot. -/
theorem WellBuilt.slot_index {j j' r : Nat} {t t' : Mty} (hj : O.slots[j]? = some (r, t))
    (hj' : O.slots[j']? = some (r, t')) : j = j' := by
  have h₁ : (O.slots.map Prod.fst)[j]? = some r := by simp [hj]
  have h₂ : (O.slots.map Prod.fst)[j']? = some r := by simp [hj']
  obtain ⟨hl₁, he₁⟩ := List.getElem?_eq_some_iff.1 h₁
  obtain ⟨hl₂, he₂⟩ := List.getElem?_eq_some_iff.1 h₂
  exact (hw.slots_nodup.getElem_inj_iff).1 (he₁.trans he₂.symm)

/-- The slots add no branch: the assembled code has the generated edges. -/
theorem WellBuilt.assembled_edge {p b : Nat} :
    (assembled symbol sig st).Edge p b ↔ st.Edge p b := by
  constructor
  · rintro ⟨k, i, hi, hb⟩
    rcases assembled_inst?_cases hi with ⟨rfl, hpre⟩ | ⟨-, hi⟩
    · obtain ⟨j, r, t, -, ⟨-, rfl⟩ | ⟨-, rfl⟩⟩ := hw.prefix_cases hpre <;>
        simp [Inst.targets] at hb
    · exact ⟨_, i, hi, hb⟩
  · rintro ⟨k, i, hi, hb⟩
    exact ⟨_, i, assembled_inst?_shift hi, hb⟩

/-- The tree of blocks certifies dominance in the assembled code. -/
theorem WellBuilt.dominates {a b : Nat} (h : Code.Above O.parent a b) :
    (assembled symbol sig st).Dominates a b := by
  refine Code.dominates_of_above hw.root (fun p b he => ?_) h
  obtain ⟨k, i, hi, hb⟩ := hw.assembled_edge.1 he
  exact (hw.targets p k i hi b hb).2.2

/-- Each slot is written by its `alloca` in the entry block. -/
theorem WellBuilt.defines_slot {j r : Nat} {t : Mty} (h : O.slots[j]? = some (r, t)) :
    (assembled symbol sig st).Defines r 0 (2 * j) := by
  refine ⟨.alloca r t, assembled_inst?_prefix (Nat.lt_of_le_of_lt (Nat.zero_le _) hw.current_lt)
    ?_, rfl⟩
  rw [hw.prefix_eq, (getElem?_slotCode _ j).1, h]
  rfl

/-- A register written in the assembled code is a slot or written by the generator. -/
theorem WellBuilt.defines_cases {r : Nat} (h : (assembled symbol sig st).Defines r b k) :
    (b = 0 ∧ ∃ j t, O.slots[j]? = some (r, t) ∧ k = 2 * j) ∨
      st.shift b ≤ k ∧ st.Writes r b (k - st.shift b) := by
  obtain ⟨i, hi, hd⟩ := h
  rcases assembled_inst?_cases hi with ⟨rfl, hpre⟩ | ⟨hk, hi⟩
  · obtain ⟨j, r', t, hj, ⟨rfl, rfl⟩ | ⟨-, rfl⟩⟩ := hw.prefix_cases hpre
    · obtain rfl : r' = r := by simpa [Inst.dst?] using hd
      exact .inl ⟨rfl, j, t, hj, rfl⟩
    · simp [Inst.dst?] at hd
  · exact .inr ⟨hk, i, hi, hd⟩

/-- What is usable at a position of the state is available at its place in the assembled
code. -/
theorem WellBuilt.available {r : Nat} (h : UsableAt sig O st r b k) :
    (assembled symbol sig st).Available r b (st.shift b + k) := by
  rcases h with hp | ⟨t, hs⟩ | ⟨a, k', hab, ⟨i, hi, hd⟩, hk⟩
  · exact .inl hp
  · -- a slot, allocated before everything the generator emitted
    obtain ⟨j, hj⟩ := List.mem_iff_getElem?.1 hs
    refine .inr ⟨0, 2 * j, hw.defines_slot hj, Code.dominates_entry _ b, fun hb => ?_⟩
    subst hb
    have hlen := hw.length_prefix
    have hjl : j < O.slots.length := (List.getElem?_eq_some_iff.1 hj).1
    simp only [GenState.shift, if_true]
    omega
  · refine .inr ⟨a, st.shift a + k', ⟨i, assembled_inst?_shift hi, hd⟩, hw.dominates hab,
      fun hb => ?_⟩
    subst hb
    have := hk rfl
    omega

/-- What holds its value at the end of a block holds it there in the assembled code. -/
theorem WellBuilt.availableAtEnd {r p : Nat} (h : LiveAt sig O st r p) :
    (assembled symbol sig st).AvailableAtEnd r p := by
  rcases h with hp | ⟨t, hs⟩ | ⟨a, k, hab, ⟨i, hi, hd⟩⟩
  · exact .inl hp
  · obtain ⟨j, hj⟩ := List.mem_iff_getElem?.1 hs
    exact .inr ⟨0, 2 * j, hw.defines_slot hj, Code.dominates_entry _ p⟩
  · exact .inr ⟨a, st.shift a + k, ⟨i, assembled_inst?_shift hi, hd⟩, hw.dominates hab⟩

/-- The slots' instructions are typed by the slots' types. -/
theorem WellBuilt.assembled_typed (h : (assembled symbol sig st).inst? b k = some i) :
    i.WellTyped O.type (Mty.ofTy sig.ret) := by
  rcases assembled_inst?_cases h with ⟨-, hpre⟩ | ⟨-, hi⟩
  · obtain ⟨j, r, t, hj, ⟨-, rfl⟩ | ⟨-, rfl⟩⟩ := hw.prefix_cases hpre
    · exact hw.slots_typed r t (List.mem_of_getElem? hj)
    · exact ⟨t, zeroOf_hasType t, hw.slots_typed r t (List.mem_of_getElem? hj)⟩
  · exact hw.typed _ _ i hi O.type fun _ _ => rfl

/-- A phi heads a block other than the entry, where the slots do not stand. -/
theorem WellBuilt.assembled_phis (h : (assembled symbol sig st).inst? b k = some i)
    (hp : i.isPhi = true) :
    (∀ j < k, ∃ i', (assembled symbol sig st).inst? b j = some i' ∧ i'.isPhi = true) ∧
      (i.incoming.map Prod.snd).Nodup ∧
      ∀ p, p ∈ i.incoming.map Prod.snd ↔ (assembled symbol sig st).Edge p b := by
  rcases assembled_inst?_cases h with ⟨-, hpre⟩ | ⟨hk, hi⟩
  · obtain ⟨j, r, t, -, ⟨-, rfl⟩ | ⟨-, rfl⟩⟩ := hw.prefix_cases hpre <;> cases hp
  · obtain ⟨hb, hk0, hnd, hpred⟩ := hw.phis b _ i hi hp
    have hs : st.shift b = 0 := by simp [GenState.shift]; omega
    exact ⟨fun j hj => by omega, hnd, fun p => (hpred p).trans hw.assembled_edge.symm⟩

/-- The uses of the slots' stores and of every generated instruction are dominated by their
definitions. -/
theorem WellBuilt.assembled_dominated (h : (assembled symbol sig st).inst? b k = some i) :
    (∀ r, .reg r ∈ i.operands → (assembled symbol sig st).Available r b k) ∧
      ∀ r p, (.reg r, p) ∈ i.incoming → (assembled symbol sig st).AvailableAtEnd r p := by
  rcases assembled_inst?_cases h with ⟨rfl, hpre⟩ | ⟨hk, hi⟩
  · obtain ⟨j, r, t, hj, ⟨rfl, rfl⟩ | ⟨rfl, rfl⟩⟩ := hw.prefix_cases hpre
    · simp [Inst.operands, Inst.incoming]
    · -- a slot's store reads the slot, allocated just before it
      refine ⟨fun r' hr' => ?_, by simp [Inst.incoming]⟩
      obtain rfl : r' = r := by simpa [Inst.operands] using hr'
      exact .inr ⟨0, 2 * j, hw.defines_slot hj, Code.dominates_entry _ 0, fun _ => by omega⟩
  · refine ⟨fun r hr => ?_, fun r p hrp => hw.availableAtEnd (hw.incoming b _ i hi r p hrp)⟩
    have hav : (assembled symbol sig st).Available r b (st.shift b + (k - st.shift b)) :=
      hw.available (hw.uses b _ i hi r hr)
    rwa [Nat.add_sub_cancel' hk] at hav

/-- The code assembled from a well-built state whose blocks have all ended passes the
verifier. -/
theorem WellBuilt.verifies (hp : st.Pending = ∅) (ht : st.terminated = true) (htidy : st.Tidy) :
    (assembled symbol sig st).Verifies where
  nonempty := by simpa [assembled] using Nat.lt_of_le_of_lt (Nat.zero_le _) hw.current_lt
  terminated := assembled_wellTerminated hp ht htidy
  targets p b he := by
    obtain ⟨k, i, hi, hb⟩ := hw.assembled_edge.1 he
    obtain ⟨h0, hlt, -⟩ := hw.targets p k i hi b hb
    exact ⟨h0, by simpa [assembled] using hlt⟩
  defines_range r b k h := by
    rcases hw.defines_cases h with ⟨-, j, t, hj, -⟩ | ⟨-, hwr⟩
    · exact hw.slots_range r t (List.mem_of_getElem? hj)
    · exact hw.writes_range r b _ hwr
  defined_once r b k b' k' h h' := by
    rcases hw.defines_cases h with ⟨rfl, j, t, hj, rfl⟩ | ⟨hk, hwr⟩ <;>
      rcases hw.defines_cases h' with ⟨rfl, j', t', hj', rfl⟩ | ⟨hk', hwr'⟩
    · exact ⟨rfl, by rw [hw.slot_index hj hj']⟩
    · exact absurd (List.mem_of_getElem? hj) (hw.writes_not_slot r b' _ t hwr')
    · exact absurd (List.mem_of_getElem? hj') (hw.writes_not_slot r b _ t' hwr)
    · obtain ⟨rfl, hkk⟩ := hw.writes_once r b _ b' _ hwr hwr'
      exact ⟨rfl, by omega⟩
  typed := ⟨O.type, hw.params_typed, fun _ _ _ h => hw.assembled_typed h⟩
  phis _ _ _ h hp := hw.assembled_phis h hp
  dominated _ _ _ h := hw.assembled_dominated h

end WellBuilt

end TypedJit.Codegen

import TypedJit.Proofs.Typing.Evaluation

/-!
What the backend's verifier checks of a function's code.
-/

namespace TypedJit.Machine

/-- The machine type of a constant. An undefined value has every type, and a null address points
to anything. -/
inductive Word.HasType : Word → Mty → Prop
  | scalar (c : Scalar) : Word.HasType (.scalar c) (.scalar c.ty)
  | vector {e : ScalarType} {lanes : List (Option Scalar)} (h : ∀ c, some c ∈ lanes → c.ty = e) :
      Word.HasType (.vector e lanes) (.vector e lanes.length)
  | zeros (e : ScalarType) (n : Nat) : Word.HasType (.zeros e n) (.array e n)
  | null (t : Mty) : Word.HasType .null (.ptr t)
  | poison (t : Mty) : Word.HasType .poison t

/-- An operand's type under the register types `Γ`. -/
def Operand.HasType (Γ : Nat → Option Mty) : Operand → Mty → Prop
  | .reg r, t => Γ r = some t
  | .const w, t => w.HasType t

/-- Scalars and vectors whose lanes are reals exactly when `real` holds: what arithmetic takes. -/
def Mty.IsArith (real : Bool) : Mty → Prop
  | .scalar s | .vector s _ => s.isReal = real
  | _ => False

/-- The scalar conversions each cast instruction performs. -/
def CastOp.Converts : CastOp → ScalarType → ScalarType → Prop
  | .trunc, s, d => s.isReal = false ∧ d.isReal = false ∧ d.bits < s.bits
  | .sext, s, d | .zext, s, d => s.isReal = false ∧ d.isReal = false ∧ s.bits < d.bits
  | .sitofp, s, d | .uitofp, s, d => s.isReal = false ∧ d.isReal = true
  | .fptosi, s, d => s.isReal = true ∧ d.isReal = false
  | .fpext, s, d => s.isReal = true ∧ d.isReal = true ∧ s.bits < d.bits
  | .fptrunc, s, d => s.isReal = true ∧ d.isReal = true ∧ d.bits < s.bits

namespace Inst

/-- The register an instruction writes. -/
def dst? : Inst → Option Nat
  | .alloca d _ | .load d _ _ | .binary d _ _ _ | .fneg d _ | .icmp d _ _ _ | .fcmp d _ _ _
  | .cast d _ _ _ | .elementAddress d _ _ | .decay d _ | .extract d _ _ | .insert d _ _ _
  | .phi d _ => some d
  | .call d _ _ _ => d
  | _ => none

/-- The operands an instruction reads where it stands. A phi reads its incoming values at the end
of its predecessors instead. -/
def operands : Inst → List Operand
  | .store v p => [v, p]
  | .load _ _ p | .fneg _ p | .cast _ _ p _ | .decay _ p => [p]
  | .binary _ _ l r | .icmp _ _ l r | .fcmp _ _ l r | .elementAddress _ l r | .extract _ l r => [l, r]
  | .insert _ v x i => [v, x, i]
  | .call _ _ _ args => args
  | .condBr c _ _ => [c]
  | .ret v => v.toList
  | _ => []

/-- A phi's values, each with the predecessor it comes from. -/
def incoming : Inst → List (Operand × Nat)
  | .phi _ inc => inc
  | _ => []

/-- The blocks a terminator may go to. -/
def targets : Inst → List Nat
  | .br t => [t]
  | .condBr _ t e => [t, e]
  | _ => []

def isPhi : Inst → Bool
  | .phi .. => true
  | _ => false

theorem targets_of_isPhi {i : Inst} (h : i.isPhi = true) : i.targets = [] := by
  cases i <;> simp_all [isPhi, targets]

theorem isPhi_of_mem_incoming {i : Inst} {x : Operand × Nat} (h : x ∈ i.incoming) :
    i.isPhi = true := by
  cases i <;> simp_all [incoming, isPhi]

theorem incoming_of_isPhi_false {i : Inst} (h : i.isPhi = false) : i.incoming = [] := by
  cases i <;> simp_all [incoming, isPhi]

/-- The types an instruction needs of its operands and gives its result, under the register types
`Γ`, in a function whose result has machine type `ret`. -/
def WellTyped (Γ : Nat → Option Mty) (ret : Option Mty) : Inst → Prop
  | .alloca d t => Γ d = some (.ptr t)
  | .store v p => ∃ t, v.HasType Γ t ∧ p.HasType Γ (.ptr t)
  | .load d t p => p.HasType Γ (.ptr t) ∧ Γ d = some t
  | .binary d op l r => ∃ t, t.IsArith op.isReal ∧ l.HasType Γ t ∧ r.HasType Γ t ∧ Γ d = some t
  | .fneg d x => ∃ t, t.IsArith true ∧ x.HasType Γ t ∧ Γ d = some t
  | .icmp d _ l r => ∃ s, s.isReal = false ∧ l.HasType Γ (.scalar s) ∧ r.HasType Γ (.scalar s) ∧
      Γ d = some (.scalar .bool)
  | .fcmp d _ l r => ∃ s, s.isReal = true ∧ l.HasType Γ (.scalar s) ∧ r.HasType Γ (.scalar s) ∧
      Γ d = some (.scalar .bool)
  | .cast d op x t => ∃ s e, op.Converts s e ∧ x.HasType Γ (.scalar s) ∧ t = .scalar e ∧
      Γ d = some t
  | .elementAddress d b i => ∃ e, b.HasType Γ (.ptr (.scalar e)) ∧ i.HasType Γ (.scalar .int64) ∧
      Γ d = some (.ptr (.scalar e))
  | .decay d p => ∃ e n, p.HasType Γ (.ptr (.array e n)) ∧ Γ d = some (.ptr (.scalar e))
  | .extract d v i => ∃ e n, v.HasType Γ (.vector e n) ∧ i.HasType Γ (.scalar .int64) ∧
      Γ d = some (.scalar e)
  | .insert d v x i => ∃ e n, v.HasType Γ (.vector e n) ∧ x.HasType Γ (.scalar e) ∧
      i.HasType Γ (.scalar .int64) ∧ Γ d = some (.vector e n)
  | .call d _ sig args =>
    List.Forall₂ (Operand.HasType Γ) args (Codegen.machineSignature sig).1 ∧
      match d, (Codegen.machineSignature sig).2 with
      | none, none => True
      | some r, some t => Γ r = some t
      | _, _ => False
  | .phi d inc => ∃ t, (∀ x ∈ inc, x.1.HasType Γ t) ∧ Γ d = some t
  | .br _ | .unreachable => True
  | .condBr c _ _ => c.HasType Γ (.scalar .bool)
  | .ret v =>
    match v, ret with
    | none, none => True
    | some o, some t => o.HasType Γ t
    | _, _ => False

end Inst

namespace Code

/-- The instruction at position `k` of block `b`. -/
def inst? (c : Code) (b k : Nat) : Option Inst := (c.blocks[b]?).bind (·.insts[k]?)

/-- Block `p` branches to block `b`. -/
def Edge (c : Code) (p b : Nat) : Prop := ∃ k i, c.inst? p k = some i ∧ b ∈ i.targets

/-- The walks of the control-flow graph from the entry block to block `b`, latest block first. -/
inductive Walk (c : Code) : Nat → List Nat → Prop
  | entry : Walk c 0 [0]
  | step {p b : Nat} {w : List Nat} : Walk c p w → c.Edge p b → Walk c b (b :: w)

/-- Block `a` dominates block `b`: every walk from the entry to `b` passes through `a`. -/
def Dominates (c : Code) (a b : Nat) : Prop := ∀ w, c.Walk b w → a ∈ w

/-- The instruction at position `k` of block `b` writes register `r`. -/
def Defines (c : Code) (r b k : Nat) : Prop := ∃ i, c.inst? b k = some i ∧ i.dst? = some r

/-- Register `r` holds its value at position `k` of block `b`: it is a parameter, or its
definition comes earlier in `b` or in a block dominating `b`. -/
def Available (c : Code) (r b k : Nat) : Prop :=
  r < c.sig.params.length ∨ ∃ b' k', c.Defines r b' k' ∧ c.Dominates b' b ∧ (b' = b → k' < k)

/-- Register `r` holds its value when block `p` ends. -/
def AvailableAtEnd (c : Code) (r p : Nat) : Prop :=
  r < c.sig.params.length ∨ ∃ b' k', c.Defines r b' k' ∧ c.Dominates b' p

/-- What the backend's verifier checks of a function's code. -/
structure Verifies (c : Code) : Prop where
  nonempty : 0 < c.blocks.size
  /-- Every block ends in its only terminator. -/
  terminated : c.wellTerminated = true
  /-- Branches go to blocks of the function other than the entry. -/
  targets : ∀ p b, c.Edge p b → 0 < b ∧ b < c.blocks.size
  /-- The parameters are the lowest registers; every other register is written at one place. -/
  defines_range : ∀ r b k, c.Defines r b k → c.sig.params.length ≤ r ∧ r < c.registers
  defined_once : ∀ r b k b' k', c.Defines r b k → c.Defines r b' k' → b = b' ∧ k = k'
  /-- Every operand has the type its instruction requires. -/
  typed : ∃ Γ : Nat → Option Mty,
    (∀ i < c.sig.params.length, Γ i = (Codegen.machineSignature c.sig).1[i]?) ∧
    ∀ b k i, c.inst? b k = some i → i.WellTyped Γ (Mty.ofTy c.sig.ret)
  /-- A phi comes after phis only, and takes one value from each predecessor of its block. -/
  phis : ∀ b k i, c.inst? b k = some i → i.isPhi = true →
    (∀ j < k, ∃ i', c.inst? b j = some i' ∧ i'.isPhi = true) ∧
    (i.incoming.map Prod.snd).Nodup ∧ ∀ p, p ∈ i.incoming.map Prod.snd ↔ c.Edge p b
  /-- Every use of a register is dominated by its definition. -/
  dominated : ∀ b k i, c.inst? b k = some i →
    (∀ r, .reg r ∈ i.operands → c.Available r b k) ∧
    ∀ r p, (.reg r, p) ∈ i.incoming → c.AvailableAtEnd r p

/-! ## Dominance from a tree of blocks -/

/-- `a` is `b` or above it in the tree given by `parent`. -/
def Above (parent : Nat → Nat) (a b : Nat) : Prop := ∃ n, parent^[n] b = a

variable {parent : Nat → Nat}

theorem Above.refl (b : Nat) : Above parent b b := ⟨0, rfl⟩

theorem Above.parent_above (b : Nat) : Above parent (parent b) b := ⟨1, rfl⟩

theorem Above.trans {a b d : Nat} (hab : Above parent a b) (hbd : Above parent b d) :
    Above parent a d := by
  obtain ⟨m, rfl⟩ := hab
  obtain ⟨n, rfl⟩ := hbd
  exact ⟨m + n, Function.iterate_add_apply parent m n d⟩

/-- Above the root, which is its own parent, there is only the root. -/
theorem Above.eq_root {a : Nat} (hroot : parent 0 = 0) (h : Above parent a 0) : a = 0 := by
  obtain ⟨n, rfl⟩ := h
  exact Function.iterate_fixed hroot n

/-- What is above `b` and is not `b` is above its parent. -/
theorem Above.of_ne {a b : Nat} (h : Above parent a b) (hne : a ≠ b) : Above parent a (parent b) := by
  obtain ⟨n, rfl⟩ := h
  cases n with
  | zero => exact absurd rfl hne
  | succ n => exact ⟨n, (Function.iterate_succ_apply parent n b).symm⟩

/-- Two parent maps that agree on a set of blocks closed under the first agree above its
members. -/
theorem Above.congr {p : Nat → Nat} {N : Nat} (hclosed : ∀ x < N, p x < N)
    (heq : ∀ x < N, parent x = p x) {a b : Nat} (hb : b < N) (h : Above p a b) :
    Above parent a b := by
  obtain ⟨n, rfl⟩ := h
  -- the walk up from `b` stays in the closed set, where the two maps agree
  have hlt : ∀ n, p^[n] b < N := by
    intro n
    induction n with
    | zero => exact hb
    | succ n ih =>
      rw [Function.iterate_succ_apply']
      exact hclosed _ ih
  refine ⟨n, ?_⟩
  induction n with
  | zero => rfl
  | succ n ih => rw [Function.iterate_succ_apply', Function.iterate_succ_apply', ih, heq _ (hlt n)]

/-- Every walk to a block passes through the blocks above it, when the root is the entry and each
edge leaves a block below its target's parent. -/
theorem Walk.above_mem {c : Code} (hroot : parent 0 = 0)
    (hedge : ∀ p b, c.Edge p b → Above parent (parent b) p) {b : Nat} {w : List Nat}
    (hw : c.Walk b w) {a : Nat} (ha : Above parent a b) : a ∈ w := by
  induction hw generalizing a with
  | entry => simp [Above.eq_root hroot ha]
  | @step p b' w _ he ih =>
    by_cases hab : a = b'
    · simp [hab]
    · exact List.mem_cons_of_mem _ (ih ((ha.of_ne hab).trans (hedge p b' he)))

theorem dominates_of_above {c : Code} (hroot : parent 0 = 0)
    (hedge : ∀ p b, c.Edge p b → Above parent (parent b) p) {a b : Nat}
    (h : Above parent a b) : c.Dominates a b :=
  fun _ hw => hw.above_mem hroot hedge h

/-- The entry dominates every block. -/
theorem dominates_entry (c : Code) (b : Nat) : c.Dominates 0 b := by
  intro w hw
  induction hw with
  | entry => simp
  | step _ _ ih => exact List.mem_cons_of_mem _ ih

end Code

/-! ## Folding keeps types -/

namespace Word.HasType

/-- A word of a scalar type is undefined or a scalar of that type. -/
theorem scalar_cases {w : Word} {s : ScalarType} (h : w.HasType (.scalar s)) :
    w = .poison ∨ ∃ c, w = .scalar c ∧ c.ty = s := by
  cases h with
  | scalar c => exact .inr ⟨c, rfl, rfl⟩
  | poison => exact .inl rfl

/-- A word of a vector type is undefined or a vector of as many lanes of its element type. -/
theorem vector_cases {w : Word} {e : ScalarType} {n : Nat} (h : w.HasType (.vector e n)) :
    w = .poison ∨
      ∃ lanes, w = .vector e lanes ∧ lanes.length = n ∧ ∀ c, some c ∈ lanes → c.ty = e := by
  cases h with
  | vector h => exact .inr ⟨_, rfl, rfl, h⟩
  | poison => exact .inl rfl

theorem of_scalar {c : Scalar} {s : ScalarType} (h : c.ty = s) : (Word.scalar c).HasType (.scalar s) :=
  h ▸ .scalar c

theorem of_length {e : ScalarType} {lanes : List (Option Scalar)} {n : Nat} (hn : lanes.length = n)
    (h : ∀ c, some c ∈ lanes → c.ty = e) : (Word.vector e lanes).HasType (.vector e n) :=
  hn ▸ .vector h

end Word.HasType

@[simp] theorem wrap_ty (s : ScalarType) (n : Int) : (wrap s n).ty = s := by
  unfold wrap
  split
  · rename_i h
    simp [h, Scalar.ty]
  · simp

theorem binaryScalar_ty {op : BinaryOp} {x y z : Scalar} (h : binaryScalar op x y = some z) :
    z.ty = x.ty := by
  unfold binaryScalar at h
  split at h
  · cases h
  split at h
  · unfold realBinary at h
    split at h
    · obtain ⟨w, -, rfl⟩ := Option.map_eq_some_iff.1 h
      rfl
    · obtain ⟨w, -, rfl⟩ := Option.map_eq_some_iff.1 h
      rfl
    · cases h
  split at h
  · cases h
  unfold intBinary at h
  split at h <;> (try split at h) <;> cases h <;> simp

theorem binaryWord_hasType {op : BinaryOp} {a b : Word} {t : Mty} (ha : a.HasType t)
    (hb : b.HasType t) : (binaryWord op a b).HasType t := by
  unfold binaryWord
  split
  · rename_i x y
    cases ha
    cases h : binaryScalar op x y with
    | none => exact .poison _
    | some z => exact .of_scalar (binaryScalar_ty h)
  · rename_i e xs _ ys
    split
    · rename_i hlen
      cases ha with
      | vector hxs =>
        refine .of_length (by simp [lanewise, hlen]) fun c hc => ?_
        -- a defined lane is an operation on two defined lanes of the element type
        obtain ⟨i, hi, hci⟩ := List.getElem_of_mem hc
        have hix : i < xs.length := by simp [lanewise] at hi; omega
        have hiy : i < ys.length := by simp [lanewise] at hi; omega
        simp only [lanewise, List.getElem_zipWith] at hci
        rcases hx : xs[i] with _ | x
        · simp [hx] at hci
        · rcases hy : ys[i] with _ | y
          · simp [hx, hy] at hci
          · simp only [hx, hy] at hci
            rw [binaryScalar_ty hci]
            exact hxs x (hx ▸ List.getElem_mem hix)
    · exact .poison _
  · exact .poison _

theorem negWord_hasType {a : Word} {t : Mty} (ha : a.HasType t) : (negWord a).HasType t := by
  cases ha with
  | scalar c => cases c <;> first | exact .poison _ | exact .scalar _
  | vector hl =>
    rename_i e lanes
    unfold negWord
    refine .of_length (List.length_map _) fun c hc => ?_
    obtain ⟨l, hl', hlc⟩ := List.mem_map.1 hc
    rcases l with _ | x
    · cases hlc
    · have hx := hl x hl'
      cases x <;> simp at hlc <;> subst hlc <;> simpa [Scalar.ty] using hx
  | _ => exact .poison _

theorem icmpWord_hasType (p : IntPred) (a b : Word) : (icmpWord p a b).HasType (.scalar .bool) := by
  unfold icmpWord
  split
  · exact .scalar _
  · exact .poison _

theorem fcmpWord_hasType (p : RealPred) (a b : Word) : (fcmpWord p a b).HasType (.scalar .bool) := by
  unfold fcmpWord
  split
  · exact .scalar _
  · exact .poison _

theorem castScalar_ty {op : CastOp} {x y : Scalar} {d : ScalarType} (h : castScalar op x d = some y) :
    y.ty = d := by
  cases op
  case fptosi =>
    obtain ⟨n, -, hn⟩ := Option.bind_eq_some_iff.1 h
    repeat' split at hn
    all_goals cases hn
    simp
  all_goals
    simp only [castScalar, Option.some.injEq] at h
    subst h
    simp

theorem castWord_hasType (op : CastOp) (a : Word) (d : ScalarType) :
    (castWord op a (.scalar d)).HasType (.scalar d) := by
  unfold castWord
  split
  · rename_i x s h
    cases h
    cases h : castScalar op x d with
    | none => exact .poison _
    | some y => exact .of_scalar (castScalar_ty h)
  · cases ‹Mty.scalar d = Mty.vector _ _›
  · exact .poison _

theorem extractWord_hasType {v : Word} {e : ScalarType} {n : Nat} (hv : v.HasType (.vector e n))
    (i : Word) : (extractWord v i).HasType (.scalar e) := by
  rcases hv.vector_cases with rfl | ⟨lanes, rfl, -, hl⟩
  · exact .poison _
  cases hj : laneOf i lanes.length with
  | none => simp only [extractWord, hj]; exact .poison _
  | some j =>
    simp only [extractWord, hj]
    rcases h : lanes[j]? with _ | (_ | c)
    · exact .poison _
    · exact .poison _
    · exact .of_scalar (hl c (List.mem_of_getElem? h))

theorem insertWord_hasType {v x : Word} {e : ScalarType} {n : Nat} (hv : v.HasType (.vector e n))
    (hx : x.HasType (.scalar e)) (i : Word) : (insertWord v x i).HasType (.vector e n) := by
  rcases hv.vector_cases with rfl | ⟨lanes, rfl, rfl, hl⟩
  · exact .poison _
  rcases hx.scalar_cases with rfl | ⟨c, rfl, hc⟩
  · exact .poison _
  cases hj : laneOf i lanes.length with
  | none => simp only [insertWord, hj]; exact .poison _
  | some j =>
    simp only [insertWord, hj]
    refine .of_length (List.length_set ..) fun c' hc' => ?_
    rcases List.mem_or_eq_of_mem_set hc' with h | h
    · exact hl c' h
    · cases h
      exact hc

theorem zeroOf_hasType (t : Mty) : (Word.zeroOf t).HasType t := by
  cases t with
  | scalar s => exact .of_scalar (Scalar.ty_zero s)
  | vector s n =>
    refine .of_length (List.length_replicate ..) fun c hc => ?_
    obtain rfl := Option.some.inj (List.eq_of_mem_replicate hc)
    exact Scalar.ty_zero s
  | array s n => exact .zeros s n
  | ptr t => exact .null t

theorem allOnes_hasType (t : Mty) : (Word.allOnes t).HasType t := by
  cases t with
  | scalar s => exact .of_scalar (Scalar.ty_ofInt s _)
  | vector s n =>
    refine .of_length (List.length_replicate ..) fun c hc => ?_
    obtain rfl := Option.some.inj (List.eq_of_mem_replicate hc)
    exact Scalar.ty_ofInt s _
  | _ => exact .poison _

end TypedJit.Machine

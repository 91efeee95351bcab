import TypedJit.Proofs.Interpreter.Preserves
import TypedJit.Proofs.Except

/-!
# Well-typed values of the interpreter
-/

namespace TypedJit

namespace Scalar

@[simp] theorem ty_ofInt (s : ScalarType) (n : Int) : (ofInt s n).ty = s := by
  cases s <;> rfl

@[simp] theorem ty_cast (x : Scalar) (dst : ScalarType) : (x.cast dst).ty = dst := by
  unfold cast
  split
  · assumption
  split
  · subst_vars
    rfl
  split
  · split
    · rfl
    · rfl
    · exact ty_ofInt _ _
  · exact ty_ofInt _ _

@[simp] theorem ty_zero (s : ScalarType) : (zero s).ty = s := ty_cast _ _

end Scalar

theorem getElem?_of_prefix {α : Type} {l₁ l₂ : List α} (h : l₁ <+: l₂) {i : Nat} {x : α}
    (hi : l₁[i]? = some x) : l₂[i]? = some x := by
  obtain ⟨t, rfl⟩ := h
  rw [List.getElem?_append_left (List.getElem?_eq_some_iff.1 hi).1, hi]

/-- A value agrees with memory of shape `S`: a vector's lanes have its element type, and a
pointer leads to a region of `S` whose scalars all have the pointer's element type. -/
def Value.Typed (S : List (List ScalarType)) : Value → Prop
  | .scalar _ | .void => True
  | .vector e lanes => ∀ x ∈ lanes, x.ty = e
  | .pointer ty r _ => ∃ ts, S[r]? = some ts ∧ ∀ t ∈ ts, ty.element = some t

theorem Value.Typed.mono {S S' : List (List ScalarType)} (h : S <+: S') {v : Value}
    (hv : v.Typed S) : v.Typed S' := by
  cases v with
  | pointer ty r o =>
    obtain ⟨ts, hts, hall⟩ := hv
    exact ⟨ts, getElem?_of_prefix h hts, hall⟩
  | _ => exact hv

@[simp] theorem Value.typed_scalar (S : List (List ScalarType)) (s : Scalar) :
    (Value.scalar s).Typed S := trivial

/-- A frame agrees with memory of shape `S`: each name it binds has a slot holding a value of the
name's type, and every slot agrees with memory. -/
structure Frame.Typed (S : List (List ScalarType)) (fr : Frame) : Prop where
  bound : ∀ p ∈ fr.scope.locals, ∃ v, fr.slots[p.2.storage]? = some v ∧ v.ty = p.2.ty
  slots : ∀ v ∈ fr.slots, v.Typed S

theorem Frame.Typed.mono {S S' : List (List ScalarType)} (h : S <+: S') {fr : Frame}
    (hfr : fr.Typed S) : fr.Typed S' :=
  ⟨hfr.bound, fun v hv => (hfr.slots v hv).mono h⟩

/-- The value a slot read returns agrees with memory. -/
theorem Frame.Typed.getD {S : List (List ScalarType)} {fr : Frame} (hfr : fr.Typed S) (i : Nat) :
    ((fr.slots[i]?).getD .void).Typed S := by
  cases h : fr.slots[i]? with
  | none => trivial
  | some v => exact hfr.slots v (Array.mem_of_getElem? h)

/-- A place agrees with the frame and memory it was found in: a slot holds a value of the
place's type, a lane belongs to a vector of the lane's type, and an element belongs to a region
whose scalars all have the element's type. -/
def Place.Typed (fr : Frame) (S : List (List ScalarType)) : Place → Prop
  | .slot i t => ∃ v, fr.slots[i]? = some v ∧ v.ty = t
  | .lane k _ e => ∃ lanes, fr.slots[k]? = some (.vector e lanes)
  | .element r _ e => ∃ ts, S[r]? = some ts ∧ ∀ t ∈ ts, t = e

theorem Place.Typed.mono {S S' : List (List ScalarType)} (h : S <+: S') {fr : Frame} {p : Place}
    (hp : p.Typed fr S) : p.Typed fr S' := by
  cases p with
  | element r i e =>
    obtain ⟨ts, hts, hall⟩ := hp
    exact ⟨ts, getElem?_of_prefix h hts, hall⟩
  | _ => exact hp

/-- How a statement list ends agrees with memory when the value it returns does. -/
def Flow.Typed (S : List (List ScalarType)) : Flow → Prop
  | .next => True
  | .returned v => v.Typed S

theorem Flow.Typed.mono {S S' : List (List ScalarType)} (h : S <+: S') {fl : Flow}
    (hfl : fl.Typed S) : fl.Typed S' := by
  cases fl with
  | next => trivial
  | returned v => exact Value.Typed.mono h hfl

/-- A conversion that changes an array-like type keeps its element type; any other conversion
starts from a type without elements. -/
theorem Ty.element_of_castable {a b : Ty} (h : castable a b = true) :
    a.element = none ∨ b.element = a.element := by
  unfold castable at h
  split at h
  · subst_vars
    exact .inr rfl
  · split at h <;> simp_all [Ty.element]

namespace Interpreter

variable {S : List (List ScalarType)}

/-- A cast yields a value of the type asked for, agreeing with memory when its operand does. -/
theorem castValue_ok {v w : Value} {dst : Ty} {span : Span} (hv : v.Typed S)
    (h : castValue v dst span = .ok w) : w.ty = dst ∧ w.Typed S := by
  dsimp only [castValue] at h
  split at h
  · cases h
  split at h
  · cases h
    exact ⟨‹v.ty = dst›, hv⟩
  rename_i hcast _
  split at h
  · cases h
    exact ⟨by simp [Value.ty], trivial⟩
  · cases h
    refine ⟨by simp [Value.ty], fun x hx => ?_⟩
    obtain ⟨_, rfl⟩ := List.mem_replicate.1 hx
    simp
  · cases h
    refine ⟨rfl, ?_⟩
    obtain ⟨ts, hts, hall⟩ := hv
    refine ⟨ts, hts, fun t ht => ?_⟩
    rcases Ty.element_of_castable (by simpa [Value.ty] using hcast) with hnone | heq
    · exact absurd (hall t ht) (by simp [hnone])
    · rw [heq]
      exact hall t ht
  · cases h

theorem ScalarType.eq_bool_of_isBool {s : ScalarType} (h : s.isBool = true) : s = .bool := by
  cases s <;> simp_all [ScalarType.isBool]

/-- An operator on two scalars of one type gives a scalar of that type. -/
theorem binaryScalar_ty {op : BinOp} {a b c : Scalar} {span : Span} (hab : a.ty = b.ty)
    (h : binaryScalar op a b span = .ok c) : c.ty = a.ty := by
  unfold binaryScalar at h
  by_cases hbool : a.ty.isBool = true
  · rw [if_pos hbool] at h
    rw [ScalarType.eq_bool_of_isBool hbool]
    split at h
    split at h <;> cases h <;> rfl
  rw [if_neg hbool] at h
  split at h
  · obtain ⟨_, -, rfl⟩ := Except.map_eq_ok.1 h
    rfl
  rename_i hnot
  split at h
  · -- two reals that are not both Floats are Doubles
    obtain ⟨_, -, rfl⟩ := Except.map_eq_ok.1 h
    cases a <;> cases b <;> simp_all [Scalar.ty, ScalarType.isReal]
  · obtain ⟨_, -, rfl⟩ := Except.map_eq_ok.1 h
    exact Scalar.ty_cast _ _

/-- A unary operator on a scalar gives a scalar of the same type. -/
theorem unaryScalar_ty {op : UnaryOp} {a c : Scalar} {span : Span}
    (h : unaryScalar op a span = .ok c) : c.ty = a.ty := by
  dsimp only [unaryScalar] at h
  split at h
  · cases h
  · cases h
    rfl
  · cases h
    rfl
  · cases h
    rfl
  · cases h
    exact Scalar.ty_cast _ _
  · split at h
    · cases h
      exact Scalar.ty_cast _ _
    · cases h
  · cases h

/-- An operator on agreeing operands gives an agreeing value: lane by lane, a vector keeps its
element type. -/
theorem binaryValue_typed {op : BinOp} {l r v : Value} {span : Span} (hl : l.Typed S)
    (hr : r.Typed S) (h : binaryValue op l r span = .ok v) : v.Typed S := by
  dsimp only [binaryValue] at h
  split at h
  · rename_i ty _
    split at h
    · simp at h
    obtain ⟨a, ha, h⟩ := Except.bind_eq_ok.1 h
    obtain ⟨b, hb, h⟩ := Except.bind_eq_ok.1 h
    obtain ⟨hta, hva⟩ := castValue_ok hl ha
    obtain ⟨htb, hvb⟩ := castValue_ok hr hb
    split at h
    · obtain ⟨_, -, rfl⟩ := Except.map_eq_ok.1 h
      trivial
    · -- both operands were cast to the same vector type, so their lanes share one type
      rename_i e xs e' ys _
      obtain ⟨zs, hzs, rfl⟩ := Except.map_eq_ok.1 h
      have he : e' = e := by
        rw [← htb] at hta
        simp only [Value.ty, Ty.vector.injEq] at hta
        exact hta.1.symm
      subst he
      intro z hz
      obtain ⟨⟨x, y⟩, hxy, hz⟩ := mapM_eq_ok hzs z hz
      have hx : x.ty = e' := hva x (List.of_mem_zip hxy).1
      have hy : y.ty = e' := hvb y (List.of_mem_zip hxy).2
      rw [binaryScalar_ty (hx.trans hy.symm) hz, hx]
    · simp at h
  · simp at h

theorem unaryValue_typed {op : UnaryOp} {v w : Value} {operandSpan span : Span} (hv : v.Typed S)
    (h : unaryValue op v operandSpan span = .ok w) : w.Typed S := by
  dsimp only [unaryValue] at h
  split at h
  · obtain ⟨_, -, h⟩ := Except.bind_eq_ok.1 h
    cases h
    trivial
  split at h
  · obtain ⟨_, -, rfl⟩ := Except.map_eq_ok.1 h
    trivial
  · obtain ⟨zs, hzs, rfl⟩ := Except.map_eq_ok.1 h
    intro z hz
    obtain ⟨x, hx, hz⟩ := mapM_eq_ok hzs z hz
    rw [unaryScalar_ty hz]
    exact hv x hx
  · simp at h

theorem compareValue_typed {op : CmpOp} {l r w : Value} {span : Span}
    (h : compareValue op l r span = .ok w) : w.Typed S := by
  dsimp only [compareValue] at h
  split at h
  · split at h
    · obtain ⟨_, -, h⟩ := Except.bind_eq_ok.1 h
      obtain ⟨_, -, h⟩ := Except.bind_eq_ok.1 h
      split at h
      · obtain ⟨_, -, rfl⟩ := Except.map_eq_ok.1 h
        trivial
      · simp at h
    · simp at h
  · simp at h

theorem constantValue_typed {lit : Literal} {span : Span} {w : Value}
    (h : constantValue lit span = .ok w) : w.Typed S := by
  unfold constantValue at h
  split at h
  · cases h
    trivial
  · cases h

end Interpreter

end TypedJit

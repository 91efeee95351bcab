import TypedJit.Proofs.Interpreter.Faults
import TypedJit.Proofs.Types.Coerce

/-!
# The interpreter's operators on typed operands
-/

namespace TypedJit.Interpreter

variable {S : List (List ScalarType)} (span : Span)

theorem Scalar.eq_bool_of_ty {x : Scalar} (h : x.ty = .bool) : ∃ b, x = .bool b := by
  cases x <;> simp_all [Scalar.ty]

/-- A `mapM` whose every step succeeds or fails with `e₀` succeeds with as many results, or
fails with `e₀`. -/
theorem mapM_ok_or_error {α β ε : Type} {f : α → Except ε β} {e₀ : ε} :
    ∀ {l : List α}, (∀ x ∈ l, (∃ y, f x = .ok y) ∨ f x = .error e₀) →
      (∃ ys, l.mapM f = .ok ys ∧ ys.length = l.length) ∨ l.mapM f = .error e₀
  | [], _ => .inl ⟨[], rfl, rfl⟩
  | x :: l, h => by
    rw [List.mapM_cons]
    rcases h x (List.mem_cons_self ..) with ⟨y, hy⟩ | hx
    · rcases mapM_ok_or_error fun z hz => h z (List.mem_cons_of_mem x hz) with ⟨ys, hys, hlen⟩ | hl
      · exact .inl ⟨y :: ys, by simp [hy, hys], by simp [hlen]⟩
      · exact .inr (by simp [hy, hl])
    · exact .inr (by simp [hx])

/-- A conversion along a cast the types allow succeeds, with a well-formed value of the type asked
for that agrees with memory. -/
theorem castValue_typed_ok {v : Value} {dst : Ty} (hv : v.WellFormed) (hvt : v.Typed S)
    (h : castable v.ty dst = true) :
    ∃ w, castValue v dst span = .ok w ∧ w.ty = dst ∧ w.WellFormed ∧ w.Typed S := by
  obtain ⟨w, hw⟩ := castValue_of_castable v span h
  exact ⟨w, hw, castValue_ty hw, castValue_wellFormed hv hw, (castValue_ok hvt hw).2⟩

/-- A value whose type converts to Bool has a truth value. -/
theorem truthyValue_ok {v : Value} (hv : v.WellFormed) (h : castable v.ty (.scalar .bool) = true) :
    ∃ b, truthyValue v span = .ok b := by
  obtain ⟨w, hw⟩ : ∃ w, castValue v Ty.bool span = .ok w := castValue_of_castable v span h
  obtain ⟨x, rfl, hx⟩ := (castValue_wellFormed hv hw).eq_scalar (castValue_ty hw)
  obtain ⟨b, rfl⟩ := Scalar.eq_bool_of_ty hx
  exact ⟨b, by simp [truthyValue, hw]⟩

variable {span} in
/-- An operator defined on the operands' kind fails only on an integer division by zero. -/
theorem binaryScalar_error_eq {op : BinOp} {x y : Scalar} {e : RunError}
    (hop : op.appliesTo x.ty = true) (h : binaryScalar op x y span = .error e) :
    e = .divisionByZero span := by
  unfold binaryScalar at h
  dsimp only at h
  split at h
  · rename_i hbool
    split at h <;> cases h
    cases op <;> simp_all [BinOp.appliesTo]
  rename_i hbool
  -- a real operator outside the five arithmetic ones is not defined on reals
  have hreal : x.ty.isReal = true → op = .add ∨ op = .sub ∨ op = .mul ∨ op = .div ∨ op = .mod := by
    intro hr
    cases op <;> simp_all [BinOp.appliesTo]
  split at h
  · have h := Except.map_eq_error h
    rcases hreal rfl with rfl | rfl | rfl | rfl | rfl <;> cases h
  split at h
  · have h := Except.map_eq_error h
    rcases hreal ‹_› with rfl | rfl | rfl | rfl | rfl <;> cases h
  · cases op <;> simp only [Except.map] at h <;> try cases h
    all_goals split at h <;> cases h
    all_goals
      rename_i hdiv
      split at hdiv <;> cases hdiv
    all_goals rfl

/-- An operator defined on the operands' kind gives a scalar of their type, or fails on an integer
division by zero. -/
theorem binaryScalar_ok {op : BinOp} {x y : Scalar} (hxy : x.ty = y.ty)
    (hop : op.appliesTo x.ty = true) :
    (∃ z, binaryScalar op x y span = .ok z ∧ z.ty = x.ty) ∨
      binaryScalar op x y span = .error (.divisionByZero span) := by
  cases h : binaryScalar op x y span with
  | ok z => exact .inl ⟨z, rfl, binaryScalar_ty hxy h⟩
  | error e => exact .inr (by rw [binaryScalar_error_eq hop h])

/-- Operands of the types the rules give, under an operator defined on their common kind, combine
to a value of their common type, or fail on an integer division by zero. -/
theorem binaryValue_typed_ok {op : BinOp} {l r : Value} {τ : Ty} {k : ScalarType}
    (hc : coerce l.ty r.ty = some τ) (hk : τ.operandKind = some k) (hop : op.appliesTo k = true)
    (hl : l.WellFormed) (hr : r.WellFormed) (hlt : l.Typed S) (hrt : r.Typed S) :
    (∃ v, binaryValue op l r span = .ok v ∧ v.ty = τ) ∨
      binaryValue op l r span = .error (.divisionByZero span) := by
  obtain ⟨hca, hcb⟩ := castable_coerce hc
  obtain ⟨a, ha, haty, haw, hat⟩ := castValue_typed_ok span hl hlt hca
  obtain ⟨b, hb, hbty, hbw, hbt⟩ := castValue_typed_ok span hr hrt hcb
  have hsome : τ.operandKind.isNone = false := by simp [hk]
  simp only [binaryValue, hc, hsome, ha, hb, Bool.false_eq_true, if_false, Except.ok_bind]
  cases τ with
  | scalar s =>
    -- both operands are scalars of the common type
    obtain ⟨x, rfl, hx⟩ := haw.eq_scalar haty
    obtain ⟨y, rfl, hy⟩ := hbw.eq_scalar hbty
    simp only [Ty.operandKind, Option.some.injEq] at hk
    subst hk hx
    rcases binaryScalar_ok span hy.symm hop with ⟨z, hz, hzty⟩ | hz
    · exact .inl ⟨.scalar z, by simp [hz], by simp [Value.ty, hzty]⟩
    · exact .inr (by simp [hz])
  | vector e n =>
    -- lane by lane, all lanes of the common element type
    obtain ⟨xs, rfl, hxs⟩ := haw.eq_vector haty
    obtain ⟨ys, rfl, hys⟩ := hbw.eq_vector hbty
    simp only [Ty.operandKind, Option.some.injEq] at hk
    subst hk
    have hlanes : ∀ p ∈ xs.zip ys, (∃ z, binaryScalar op p.1 p.2 span = .ok z) ∨
        binaryScalar op p.1 p.2 span = .error (.divisionByZero span) := by
      rintro ⟨x, y⟩ hp
      have hx : x.ty = e := hat x (List.of_mem_zip hp).1
      have hy : y.ty = e := hbt y (List.of_mem_zip hp).2
      have hopx : op.appliesTo x.ty = true := hx ▸ hop
      rcases binaryScalar_ok span (hx.trans hy.symm) hopx with ⟨z, hz, -⟩ | hz
      · exact .inl ⟨z, hz⟩
      · exact .inr hz
    rcases mapM_ok_or_error hlanes with ⟨zs, hzs, hlen⟩ | hzs
    · refine .inl ⟨.vector e zs, by simp [hzs], ?_⟩
      simp [Value.ty, hlen, hxs, hys]
    · exact .inr (by simp [hzs])
  | _ => simp [Ty.operandKind] at hk

/-- A comparison defined on the operands' scalar kind succeeds. -/
theorem compareScalar_ok {op : CmpOp} {x y : Scalar} (hop : op.appliesTo x.ty = true) :
    ∃ b, compareScalar op x y span = .ok b := by
  unfold compareScalar
  dsimp only
  split
  · rename_i hbool
    cases op <;> simp_all [CmpOp.appliesTo]
  · split <;> exact ⟨_, rfl⟩

theorem compareValue_typed_ok {op : CmpOp} {l r : Value} {k : ScalarType}
    (hc : coerce l.ty r.ty = some (.scalar k)) (hop : op.appliesTo k = true) (hl : l.WellFormed)
    (hr : r.WellFormed) (hlt : l.Typed S) (hrt : r.Typed S) :
    ∃ v, compareValue op l r span = .ok v ∧ v.ty = .scalar .bool := by
  obtain ⟨hca, hcb⟩ := castable_coerce hc
  obtain ⟨a, ha, haty, haw, -⟩ := castValue_typed_ok span hl hlt hca
  obtain ⟨b, hb, hbty, hbw, -⟩ := castValue_typed_ok span hr hrt hcb
  obtain ⟨x, rfl, hx⟩ := haw.eq_scalar haty
  obtain ⟨y, rfl, -⟩ := hbw.eq_scalar hbty
  obtain ⟨c, hcmp⟩ := compareScalar_ok span (y := y) (hx ▸ hop)
  exact ⟨.scalar (.bool c), by simp [compareValue, hc, ha, hb, hcmp], rfl⟩

/-- `+`, `-` and `~` defined on a scalar's kind give a scalar of its type. -/
theorem unaryScalar_ok {op : UnaryOp} {x : Scalar} (hop : op.appliesTo x.ty = true) :
    ∃ z, unaryScalar op x span = .ok z ∧ z.ty = x.ty := by
  cases h : unaryScalar op x span with
  | ok z => exact ⟨z, rfl, unaryScalar_ty h⟩
  | error e =>
    -- every failure is an operator undefined on the scalar's kind
    exfalso
    unfold unaryScalar at h
    dsimp only at h
    split at h
    · -- Bool has none of these operators
      cases op <;> simp_all [UnaryOp.appliesTo, Scalar.ty, ScalarType.isInteger_iff, ScalarType.isBool]
    · cases h
    · cases h
    · cases h
    · cases h
    · -- `~` only on integers
      split at h
      · cases h
      · simp_all [UnaryOp.appliesTo]
    · simp_all [UnaryOp.appliesTo]

theorem unaryValue_typed_ok {op : UnaryOp} {v : Value} {k : ScalarType} (operandSpan : Span)
    (hk : v.ty.operandKind = some k) (hop : op.appliesTo k = true) (hv : v.WellFormed)
    (hvt : v.Typed S) : ∃ w, unaryValue op v operandSpan span = .ok w ∧ w.ty = v.ty := by
  have hnot : op ≠ .not := by
    rintro rfl
    simp [UnaryOp.appliesTo] at hop
  cases v with
  | scalar x =>
    simp only [Value.ty, Ty.operandKind, Option.some.injEq] at hk
    subst hk
    obtain ⟨z, hz, hzty⟩ := unaryScalar_ok span hop
    exact ⟨.scalar z, by simp [unaryValue, hnot, hz], by simp [Value.ty, hzty]⟩
  | vector e lanes =>
    simp only [Value.ty, Ty.operandKind, Option.some.injEq] at hk
    subst hk
    have hlanes : ∀ x ∈ lanes, (∃ z, unaryScalar op x span = .ok z) ∨
        unaryScalar op x span = .error (.divisionByZero span) := fun x hx =>
      .inl ((unaryScalar_ok span (hvt x hx ▸ hop)).imp fun _ h => h.1)
    rcases mapM_ok_or_error hlanes with ⟨zs, hzs, hlen⟩ | hzs
    · exact ⟨.vector e zs, by simp [unaryValue, hnot, hzs], by simp [Value.ty, hlen]⟩
    · -- no lane fails
      obtain ⟨x, hx, hfail⟩ := mapM_eq_error hzs
      obtain ⟨z, hz, -⟩ := unaryScalar_ok span (hvt x hx ▸ hop)
      rw [hz] at hfail
      cases hfail
  | pointer ty r o =>
    simp only [Value.ty] at hk
    cases ty <;> simp_all [Value.WellFormed, Ty.isArrayLike, Ty.operandKind]
  | void => simp [Value.ty, Ty.operandKind] at hk

theorem unaryValue_not_ok {v : Value} (operandSpan : Span) (hv : v.WellFormed)
    (h : castable v.ty (.scalar .bool) = true) :
    ∃ b, unaryValue .not v operandSpan span = .ok (.scalar (.bool b)) := by
  obtain ⟨b, hb⟩ := truthyValue_ok operandSpan hv h
  exact ⟨!b, by simp [unaryValue, hb]⟩

theorem indexOf_ok {v : Value} {s : ScalarType} (hv : v.WellFormed) (h : v.ty = .scalar s)
    (hs : s.isInteger = true) : ∃ i, indexOf v span = .ok i := by
  obtain ⟨x, rfl, rfl⟩ := hv.eq_scalar h
  exact ⟨x.toInt, by simp [indexOf, hs]⟩

theorem constantValue_ok {lit : Literal} {s : ScalarType} (h : lit.scalarType? = some s) :
    ∃ x, constantValue lit span = .ok (.scalar x) ∧ x.ty = s := by
  have hty := Literal.toScalar?_ty lit
  rw [h] at hty
  obtain ⟨x, hx, rfl⟩ := Option.map_eq_some_iff.1 hty
  exact ⟨x, by simp [constantValue, hx], rfl⟩

variable {span} in
theorem laneIndex_lt {position : Int} {n lane : Nat} (h : laneIndex position n span = .ok lane) :
    lane < n := by
  unfold laneIndex at h
  split at h
  · cases h
  · cases h
    omega

/-- A lane read within bounds has the vector's element type. -/
theorem lane_ty {e : ScalarType} {lanes : List Scalar} {lane : Nat} (hlanes : ∀ x ∈ lanes, x.ty = e)
    (h : lane < lanes.length) : (lanes[lane]?.getD default).ty = e := by
  rw [List.getElem?_eq_getElem h, Option.getD_some]
  exact hlanes _ (List.getElem_mem h)

/-- An element read within a region has the element type of a pointer into it. -/
theorem element_ty {m : Machine} {ty : Ty} {e : ScalarType} {r o pos : Nat}
    (hp : (Value.pointer ty r o).Typed m.shape) (he : ty.element = some e)
    (hpos : pos < regionSize m r) : (((m.regions[r]?).bind (·[pos]?)).getD default).ty = e := by
  obtain ⟨ts, hts, hall⟩ := hp
  unfold regionSize at hpos
  rw [Machine.shape_getElem?] at hts
  cases hdata : m.regions[r]? with
  | none => simp [hdata] at hpos
  | some data =>
    simp only [hdata, Option.map_some, Option.getD_some] at hpos
    simp only [hdata, Option.map_some, Option.some.injEq] at hts
    have hmem : data[pos].ty ∈ ts := by
      rw [← hts]
      exact List.mem_map.2 ⟨data[pos], by simp, rfl⟩
    have := hall _ hmem
    rw [he] at this
    simp [Option.bind_some, Array.getElem?_eq_getElem hpos, (Option.some.inj this).symm]

end TypedJit.Interpreter

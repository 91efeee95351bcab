import TypedJit.Proofs.Interpreter.Typing

/-!
# The interpreter's steps on frames and memory
-/

namespace TypedJit

theorem Scope.declare_eq_ok {H : Type} {s s' : Scope H} {name : String} {ty : Ty} {h : H}
    {span : Span} (hd : s.declare name ty h span = .ok s') :
    s' = { s with locals := s.locals ++ [(name, ⟨ty, h⟩)] } := by
  unfold Scope.declare at hd
  obtain ⟨_, -, hd⟩ := Except.bind_eq_ok.1 hd
  cases hd
  rfl

namespace Machine

theorem shape_push (m : Machine) (data : Array Scalar) :
    { m with regions := m.regions.push data }.shape = m.shape ++ [data.toList.map Scalar.ty] := by
  simp [shape]

/-- Storing a scalar into a region whose scalars all have its type keeps the shape. -/
theorem shape_store (m : Machine) {r i : Nat} {s : Scalar}
    (hr : ∀ ts, m.shape[r]? = some ts → ∀ t ∈ ts, t = s.ty) :
    { m with regions := m.regions.modify r (·.setIfInBounds i s) }.shape = m.shape := by
  apply List.ext_getElem?
  intro k
  rw [shape_getElem?, shape_getElem?, Array.getElem?_modify]
  split
  · rename_i hrk
    subst hrk
    cases hk : m.regions[r]? with
    | none => rfl
    | some data =>
      have hall := hr _ (by rw [shape_getElem?, hk]; rfl)
      simp only [Option.map_some, Array.toList_setIfInBounds, List.map_set]
      congr 1
      by_cases hi : i < (data.toList.map Scalar.ty).length
      · rw [← hall _ (List.getElem_mem hi), List.set_getElem_self]
      · exact List.set_eq_of_length_le (by omega)
  · rfl

end Machine

/-- A frame with one more local, whose slot holds a value of its type, agrees with memory. -/
theorem Frame.Typed.declare {S : List (List ScalarType)} {fr fr' : Frame} {name : String} {ty : Ty}
    {v : Value} (hfr : fr.Typed S) (hty : v.ty = ty) (hv : v.Typed S)
    (hlocals : fr'.scope.locals = fr.scope.locals ++ [(name, ⟨ty, fr.slots.size⟩)])
    (hslots : fr'.slots = fr.slots.push v) : fr'.Typed S := by
  constructor
  · intro p hp
    rw [hlocals, List.mem_append, List.mem_singleton] at hp
    rw [hslots, Array.getElem?_push]
    rcases hp with hp | rfl
    · obtain ⟨w, hw, hwty⟩ := hfr.bound p hp
      have hlt : p.2.storage < fr.slots.size := (Array.getElem?_eq_some_iff.1 hw).1
      rw [if_neg (by omega)]
      exact ⟨w, hw, hwty⟩
    · exact ⟨v, by simp, hty⟩
  · intro w hw
    rw [hslots, Array.mem_push] at hw
    rcases hw with hw | rfl
    · exact hfr.slots w hw
    · exact hv

/-- Overwriting a slot with a value of the type it held keeps the frame agreeing with memory. -/
theorem Frame.Typed.setSlot {S : List (List ScalarType)} {fr : Frame} {i : Nat} {w v : Value}
    (hfr : fr.Typed S) (hw : fr.slots[i]? = some w) (hty : v.ty = w.ty) (hv : v.Typed S) :
    ({ fr with slots := fr.slots.setIfInBounds i v } : Frame).Typed S := by
  constructor
  · intro q hq
    obtain ⟨u, hu, huty⟩ := hfr.bound q hq
    simp only [Array.getElem?_setIfInBounds]
    split
    · rename_i hiq
      subst hiq
      have hlt : q.2.storage < fr.slots.size := (Array.getElem?_eq_some_iff.1 hu).1
      rw [hw] at hu
      cases hu
      exact ⟨v, by simp [hlt], hty.trans huty⟩
    · exact ⟨u, hu, huty⟩
  · intro x hx
    rcases Array.mem_or_eq_of_mem_setIfInBounds hx with hx | rfl
    · exact hfr.slots x hx
    · exact hv

namespace Interpreter

variable {fr : Frame} {m : Machine}

/-- A new local gets the next slot, holding its value. -/
theorem declareLocal_preserves (name : String) (ty : Ty) (v : Value) (span : Span) :
    Preserves (declareLocal name ty v span) fr m fun _ fr' m' =>
      m' = m ∧ fr'.scope.locals = fr.scope.locals ++ [(name, ⟨ty, fr.slots.size⟩)] ∧
        fr'.slots = fr.slots.push v := by
  unfold declareLocal
  refine Preserves.bind_get (Preserves.bind_liftCompile fun sc hsc => ?_)
  refine Preserves.set ⟨rfl, ?_, rfl⟩
  rw [Scope.declare_eq_ok hsc]

/-- An allocation adds one region, at the end of memory. -/
theorem alloc_preserves (data : Array Scalar) :
    Preserves (alloc data) fr m fun r fr' m' =>
      fr' = fr ∧ m'.shape = m.shape ++ [data.toList.map Scalar.ty] ∧ r = m.shape.length := by
  unfold alloc
  refine Preserves.bind_machine (Preserves.bind_modifyMachine ?_ (Preserves.pure ⟨rfl, ?_, ?_⟩))
  · rw [Machine.shape_push]
    exact List.prefix_append _ _
  · exact Machine.shape_push _ _
  · simp [Machine.shape]

/-- A zero value has the declared type, and an array's zero is a fresh region of zeros. -/
theorem zeroValue_preserves (ty : Ty) :
    Preserves (zeroValue ty) fr m fun v fr' m' => fr' = fr ∧ v.ty = ty ∧ v.Typed m'.shape := by
  -- a fresh region holding `data` is the last one, and its scalars have the types `data` has
  have fresh : ∀ (t : Ty) (data : Array Scalar), (∀ x ∈ data.toList, t.element = some x.ty) →
      Preserves (alloc data) fr m fun r fr' m' => fr' = fr ∧ (Value.pointer t r 0).Typed m'.shape := by
    intro t data hdata
    refine (alloc_preserves data).mono fun r fr' m' _ h => ⟨h.1, ?_⟩
    obtain ⟨-, hshape, hr⟩ := h
    refine ⟨data.toList.map Scalar.ty, by simp [hshape, hr], fun u hu => ?_⟩
    obtain ⟨x, hx, rfl⟩ := List.mem_map.1 hu
    exact hdata x hx
  cases ty with
  | void => exact Preserves.pure ⟨rfl, rfl, trivial⟩
  | scalar s => exact Preserves.pure ⟨rfl, by simp [Value.ty], trivial⟩
  | vector e n =>
    refine Preserves.pure ⟨rfl, by simp [Value.ty], fun x hx => ?_⟩
    obtain ⟨-, rfl⟩ := List.mem_replicate.1 hx
    simp
  | array e n =>
    refine Preserves.bind (fresh (.array e n) _ fun x hx => ?_) fun r fr₁ m₁ _ h =>
      Preserves.pure ⟨h.1, rfl, h.2⟩
    obtain ⟨-, rfl⟩ := List.mem_replicate.1 (by simpa using hx)
    simp [Ty.element]
  | unbounded e =>
    exact Preserves.bind (fresh (.unbounded e) #[] (by simp)) fun r fr₁ m₁ _ h =>
      Preserves.pure ⟨h.1, rfl, h.2⟩
  | slice e =>
    exact Preserves.bind (fresh (.slice e) #[] (by simp)) fun r fr₁ m₁ _ h =>
      Preserves.pure ⟨h.1, rfl, h.2⟩

/-- A value read from a place of an agreeing frame agrees with memory. -/
theorem loadPlace_preserves (hfr : fr.Typed m.shape) (p : Place) :
    Preserves (loadPlace p) fr m fun v fr' m' => fr' = fr ∧ m' = m ∧ v.Typed m.shape := by
  cases p with
  | slot i t => exact Preserves.bind_get (Preserves.pure ⟨rfl, rfl, hfr.getD i⟩)
  | lane k l e =>
    refine Preserves.bind_get ?_
    split <;> exact Preserves.pure ⟨rfl, rfl, trivial⟩
  | element r i e => exact Preserves.bind_machine (Preserves.pure ⟨rfl, rfl, trivial⟩)

/-- A store of a value of the place's type keeps the frame agreeing with memory, and memory's
shape. -/
theorem storePlace_preserves {p : Place} {v : Value} (hfr : fr.Typed m.shape)
    (hp : p.Typed fr m.shape) (hty : v.ty = p.ty) (hv : v.Typed m.shape) :
    Preserves (storePlace p v) fr m fun _ fr' m' => fr'.Typed m'.shape ∧ fr'.scope = fr.scope := by
  cases p with
  | slot i t =>
    -- every name bound to the slot has the place's type, which the new value has
    obtain ⟨w, hw, hwty⟩ := hp
    exact Preserves.modifyFrame ⟨hfr.setSlot hw (hty.trans hwty.symm) hv, rfl⟩
  | lane k l e =>
    cases v with
    | scalar s =>
      -- the vector keeps its type, and its lanes their element type
      obtain ⟨lanes, hk⟩ := hp
      have hs : s.ty = e := by simpa [Value.ty, Place.ty] using hty
      have hlanes : ∀ x ∈ lanes, x.ty = e := hfr.slots _ (Array.mem_of_getElem? hk)
      refine Preserves.modifyFrame ?_
      rw [hk]
      refine ⟨hfr.setSlot hk (by simp [Value.ty]) fun y hy => ?_, rfl⟩
      rcases List.mem_or_eq_of_mem_set hy with hy | rfl
      · exact hlanes y hy
      · exact hs
    | _ => exact Preserves.pure ⟨hfr, rfl⟩
  | element r i e =>
    cases v with
    | scalar s =>
      -- the region's scalars all have the element's type, which the new one has
      obtain ⟨ts, hts, hall⟩ := hp
      have hs : s.ty = e := by simpa [Value.ty, Place.ty] using hty
      have hshape := Machine.shape_store m (i := i) (s := s) fun ts' hts' t ht => by
        rw [hts] at hts'
        cases hts'
        rw [hall t ht, hs]
      refine Preserves.modifyMachine (hshape ▸ List.prefix_refl _) ⟨?_, rfl⟩
      rw [hshape]
      exact hfr
    | _ => exact Preserves.pure ⟨hfr, rfl⟩

theorem callBuiltin_preserves (f : FunctionRef) (args : List Value) (span : Span) :
    Preserves (callBuiltin f args span) fr m fun v fr' m' => fr' = fr ∧ v.Typed m'.shape := by
  unfold callBuiltin
  dsimp only
  refine Preserves.bind (Preserves.mapM (fun fr' _ => fr' = fr)
    (fun _ _ _ _ h => Preserves.ofExcept fun _ _ => h) rfl) fun xs fr₁ m₁ _ hfr₁ => ?_
  subst hfr₁
  refine Preserves.bind_ofExcept fun out _ => ?_
  split
  · -- writing a byte leaves the regions alone
    exact Preserves.bind_modifyMachine (List.prefix_refl _) (Preserves.pure ⟨rfl, trivial⟩)
  · exact Preserves.pure ⟨rfl, trivial⟩

theorem elementIndex_preserves (region offset : Nat) (position : Int) (span : Span) :
    Preserves (elementIndex region offset position span) fr m fun _ fr' _ => fr' = fr := by
  unfold elementIndex
  dsimp only
  refine Preserves.bind_machine ?_
  split
  · exact Preserves.bind_throw
  · exact Preserves.pure rfl

theorem rangeBounds_preserves (fr₀ : Frame) (iter : Expr) :
    Preserves (rangeBounds fr₀ iter) fr m fun _ fr' _ => fr' = fr := by
  unfold rangeBounds
  dsimp only
  split
  · split
    · split
      · exact Preserves.bind_compileError
      · split
        · exact Preserves.pure rfl
        · exact Preserves.pure rfl
        · exact Preserves.compileError
        · exact Preserves.compileError
    · exact Preserves.compileError
  · exact Preserves.compileError

theorem declareVars_preserves {args : List Expr} {kws : List Keyword} {span : Span}
    (hfr : fr.Typed m.shape) :
    Preserves (declareVars args kws span) fr m fun _ fr' m' =>
      fr'.Typed m'.shape ∧ fr.scope.locals <+: fr'.scope.locals := by
  unfold declareVars
  dsimp only
  split
  · exact Preserves.bind_compileError
  split
  · exact Preserves.bind_compileError
  -- each pass declares one name with the zero of its type
  refine Preserves.bind (Preserves.forIn
    (fun fr' m' => fr'.Typed m'.shape ∧ fr.scope.locals <+: fr'.scope.locals) ?_
    ⟨hfr, List.prefix_refl _⟩) fun _ _ _ _ h => Preserves.pure h
  rintro kw _ _ fr₁ m₁ ⟨hfr₁, hpre₁⟩
  refine Preserves.bind_get (Preserves.bind_liftCompile fun ty _ => ?_)
  split
  · exact Preserves.bind_compileError
  refine Preserves.bind_liftCompile fun _ _ => ?_
  refine Preserves.bind (zeroValue_preserves ty) fun v fr₂ m₂ hgrow h => ?_
  obtain ⟨rfl, hvty, hv⟩ := h
  refine Preserves.bind (declareLocal_preserves kw.name ty v kw.span) fun _ fr₃ m₃ _ h => ?_
  obtain ⟨rfl, hlocals, hslots⟩ := h
  refine Preserves.pure ⟨Frame.Typed.declare (hfr₁.mono hgrow) hvty hv hlocals hslots, ?_⟩
  rw [hlocals]
  exact hpre₁.trans (List.prefix_append _ _)

end Interpreter

end TypedJit

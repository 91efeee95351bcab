import TypedJit.Proofs.Interpreter.Within
import TypedJit.Proofs.Interpreter.Steps
import TypedJit.Proofs.Typing.Rules
import TypedJit.Registry.Basic

/-!
# What a run can fail with
-/

namespace TypedJit

namespace RunError

/-- The runtime faults, which no static check rules out. -/
def isFault : RunError → Bool
  | .divisionByZero _ | .outOfBounds .. | .callDepth _ | .missingBody _ | .outOfFuel => true
  | _ => false

/-- The failures a program causes: a compile error met on the way, or a fault. The others are
the host's. -/
def isCompileOrFault : RunError → Bool
  | .compile _ => true
  | e => e.isFault

/-- The failures left to a program that type-checks: a fault, or a compile error raised in the
body of a function it calls, which carries that function's context. -/
def isFaultOrCallee : RunError → Bool
  | .compile c => c.context.isSome
  | e => e.isFault

theorem isCompileOrFault_of_isFaultOrCallee {e : RunError} (h : e.isFaultOrCallee = true) :
    e.isCompileOrFault = true := by
  cases e <;> simp_all [isFaultOrCallee, isCompileOrFault]

theorem isFaultOrCallee_of_isFault {e : RunError} (h : e.isFault = true) :
    e.isFaultOrCallee = true := by
  cases e <;> simp_all [isFaultOrCallee, isFault]

theorem isCompileOrFault_of_isFault {e : RunError} (h : e.isFault = true) :
    e.isCompileOrFault = true := by
  cases e <;> simp_all [isCompileOrFault, isFault]

/-- A failure a program causes that is no compile error is a fault. -/
theorem isFaultOrCallee_of_not_compile {e : RunError} (h : e.isCompileOrFault = true)
    (hne : ∀ c, e = .compile c → False) : e.isFaultOrCallee = true := by
  cases e with
  | compile c => exact (hne c rfl).elim
  | _ => simpa [isCompileOrFault, isFaultOrCallee] using h

@[simp] theorem isCompileOrFault_atIfUnknown (e : RunError) (span : Span) :
    (e.atIfUnknown span).isCompileOrFault = e.isCompileOrFault := by
  cases e <;> rfl

@[simp] theorem CompileError.context_atIfUnknown (c : CompileError) (span : Span) :
    (c.atIfUnknown span).context = c.context := by
  unfold CompileError.atIfUnknown
  split <;> rfl

@[simp] theorem isFaultOrCallee_atIfUnknown (e : RunError) (span : Span) :
    (e.atIfUnknown span).isFaultOrCallee = e.isFaultOrCallee := by
  cases e <;> simp [atIfUnknown, isFaultOrCallee]

/-- A compile error of a callee's body, wrapped with the callee's context, names a function. -/
theorem isFaultOrCallee_inFunction (c : CompileError) (f : FunctionDef) :
    (RunError.compile (c.inFunction f)).isFaultOrCallee = true := by
  show (c.inFunction f).context.isSome = true
  unfold CompileError.inFunction
  split <;> simp_all

end RunError

/-! ## Well-formed values and frames -/

/-- A value is well formed when, being a pointer, it has an array type. -/
def Value.WellFormed : Value → Prop
  | .pointer ty _ _ => ty.isArrayLike = true
  | _ => True

@[simp] theorem Value.wellFormed_scalar (s : Scalar) : (Value.scalar s).WellFormed := trivial

@[simp] theorem Value.wellFormed_vector (e : ScalarType) (lanes : List Scalar) :
    (Value.vector e lanes).WellFormed := trivial

@[simp] theorem Value.wellFormed_void : Value.void.WellFormed := trivial

/-- A conversion from an array type only reaches array types. -/
theorem Ty.isArrayLike_of_castable {a b : Ty} (h : castable a b = true)
    (ha : a.isArrayLike = true) : b.isArrayLike = true := by
  unfold castable at h
  split at h
  · subst_vars
    exact ha
  · split at h <;> simp_all [Ty.isArrayLike]

/-- A well-formed value converts to a well-formed value. -/
theorem Interpreter.castValue_wellFormed {v w : Value} {dst : Ty} {span : Span}
    (hv : v.WellFormed) (h : Interpreter.castValue v dst span = .ok w) : w.WellFormed := by
  dsimp only [Interpreter.castValue] at h
  split at h
  · cases h
  split at h
  · cases h
    exact hv
  rename_i hcast _
  split at h
  · cases h
    trivial
  · cases h
    trivial
  · cases h
    exact Ty.isArrayLike_of_castable (by simpa [Value.ty] using hcast) hv
  · cases h

/-- A conversion gives a value of the type asked for. -/
theorem Interpreter.castValue_ty {v w : Value} {dst : Ty} {span : Span}
    (h : Interpreter.castValue v dst span = .ok w) : w.ty = dst := by
  dsimp only [Interpreter.castValue] at h
  split at h
  · cases h
  split at h
  · cases h
    assumption
  split at h
  · cases h
    simp [Value.ty]
  · cases h
    simp [Value.ty]
  · cases h
    rfl
  · cases h

/-- A well-formed value of a scalar type is a scalar. -/
theorem Value.WellFormed.eq_scalar {v : Value} {s : ScalarType} (hv : v.WellFormed)
    (h : v.ty = .scalar s) : ∃ x, v = .scalar x ∧ x.ty = s := by
  cases v with
  | scalar x => exact ⟨x, rfl, by simpa [Value.ty] using h⟩
  | pointer ty r o =>
    simp only [Value.ty] at h
    subst h
    simp [Value.WellFormed, Ty.isArrayLike] at hv
  | _ => simp [Value.ty] at h

/-- A well-formed value of a vector type is a vector with as many lanes. -/
theorem Value.WellFormed.eq_vector {v : Value} {e : ScalarType} {n : Nat} (hv : v.WellFormed)
    (h : v.ty = .vector e n) : ∃ lanes, v = .vector e lanes ∧ lanes.length = n := by
  cases v with
  | vector e' lanes =>
    simp only [Value.ty, Ty.vector.injEq] at h
    obtain ⟨rfl, rfl⟩ := h
    exact ⟨lanes, rfl, rfl⟩
  | pointer ty r o =>
    simp only [Value.ty] at h
    subst h
    simp [Value.WellFormed, Ty.isArrayLike] at hv
  | _ => simp [Value.ty] at h

/-- A value of an array type is a pointer. -/
theorem Value.eq_pointer_of_isArrayLike {v : Value} (h : v.ty.isArrayLike = true) :
    ∃ r o, v = .pointer v.ty r o := by
  cases v with
  | pointer ty r o => exact ⟨r, o, rfl⟩
  | _ => simp [Value.ty, Ty.isArrayLike] at h

/-- A frame of library `lib`: it sees the library's globals, and its slots hold well-formed
values. -/
structure Frame.OfLibrary (lib : Library) (fr : Frame) : Prop where
  globals : fr.scope.globals = lib.globals
  slots : ∀ v ∈ fr.slots, v.WellFormed

theorem Frame.OfLibrary.getD {lib : Library} {fr : Frame} (hfr : fr.OfLibrary lib) (i : Nat) :
    ((fr.slots[i]?).getD .void).WellFormed := by
  cases h : fr.slots[i]? with
  | none => trivial
  | some v => exact hfr.slots v (Array.mem_of_getElem? h)

theorem Frame.OfLibrary.setSlot {lib : Library} {fr : Frame} (hfr : fr.OfLibrary lib) (i : Nat)
    {v : Value} (hv : v.WellFormed) :
    ({ fr with slots := fr.slots.setIfInBounds i v } : Frame).OfLibrary lib := by
  refine ⟨hfr.globals, fun w hw => ?_⟩
  rcases Array.mem_or_eq_of_mem_setIfInBounds hw with hw | rfl
  · exact hfr.slots w hw
  · exact hv

/-- How a statement list ends, for a function returning `ret`: a value it returns is a
well-formed value of type `ret`. -/
def Flow.Returns (ret : Ty) : Flow → Prop
  | .next => True
  | .returned v => v.ty = ret ∧ v.WellFormed

/-! ## The standard builtins -/

/-- The builtins a session declares: the math routines and `putchar`. -/
def standardBuiltins : List Registry.BuiltinDecl := Registry.mathBuiltins ++ Registry.stdioBuiltins

/-- A builtin declared as a session declares it: its symbol and signature are those of a
standard builtin. -/
def FunctionRef.IsStandard (f : FunctionRef) : Prop :=
  (f.symbol, f.sig.ret, f.sig.params) ∈ standardBuiltins

/-- A library whose builtins are the standard ones, and whose functions have the signatures of
their bodies. -/
structure Library.Consistent (lib : Library) : Prop where
  builtins : ∀ n f, lib.globals.find? n = some (.function f) → f.builtin = true → f.IsStandard
  signatures : ∀ n f, lib.globals.find? n = some (.function f) → f.builtin = false →
    ∀ d sig, lib.definition? f.id = some (d, sig) → sig = f.sig

namespace Registry

/-- The names of the math routines, with and without their Float suffix, are not `putchar`, and
with it they end in `f`. -/
theorem mathRoutines_symbols : ∀ n ∈ mathRoutines ++ ["pow"],
    n ≠ "putchar" ∧ n ++ "f" ≠ "putchar" ∧ (n ++ "f").endsWith "f" = true := by
  decide +kernel

theorem double_routine_unary {n : String} (hn : n ∈ mathRoutines) (x : UInt64) :
    ∃ w, Ieee.Double.routine n [x] = some w := by
  simp only [mathRoutines, List.mem_cons, List.not_mem_nil, or_false] at hn
  rcases hn with rfl | rfl | rfl | rfl | rfl | rfl | rfl | rfl | rfl | rfl | rfl | rfl | rfl |
    rfl | rfl | rfl <;> exact ⟨_, rfl⟩

theorem single_routine_unary {n : String} (hn : n ∈ mathRoutines) (x : UInt32) :
    ∃ w, Ieee.Single.routine n [x] = some w := by
  simp only [mathRoutines, List.mem_cons, List.not_mem_nil, or_false] at hn
  rcases hn with rfl | rfl | rfl | rfl | rfl | rfl | rfl | rfl | rfl | rfl | rfl | rfl | rfl |
    rfl | rfl | rfl <;> exact ⟨_, rfl⟩

end Registry

section Builtins

variable {f : FunctionRef} {xs : List Scalar}

theorem builtinScalar_double (hs : f.symbol ≠ "putchar") (hret : f.sig.ret = .double) {w : UInt64}
    (hw : Ieee.Double.routine f.symbol (xs.map Scalar.toDouble) = some w) :
    builtinScalar f xs = .ok (.f64 w, none) := by
  simp [builtinScalar, hs, hret, Ty.double, hw]

theorem builtinScalar_single {n : String} (hs : f.symbol ≠ "putchar")
    (hret : f.sig.ret = .scalar .float) (hname : f.symbol = n ++ "f")
    (hend : f.symbol.endsWith "f" = true) {w : UInt32}
    (hw : Ieee.Single.routine n
      (xs.map fun x => UInt32.ofNat (Ieee.binary64.convert Ieee.binary32 x.toDouble.toNat)) = some w) :
    builtinScalar f xs = .ok (.f32 w, none) := by
  have hdrop : String.ofList f.symbol.toList.dropLast = n := by
    rw [hname]
    simp
  simp [builtinScalar, hs, hret, hend, hdrop, hw]

/-- A standard builtin given as many scalars as it has parameters returns a scalar of its return
type. -/
theorem builtinScalar_standard (hf : f.IsStandard) (hxs : xs.length = f.sig.params.length) :
    ∃ r byte, builtinScalar f xs = .ok (r, byte) ∧ Ty.scalar r.ty = f.sig.ret := by
  obtain ⟨id, sym, ⟨ret, params⟩, builtin⟩ := f
  simp only [FunctionRef.IsStandard, standardBuiltins, Registry.mathBuiltins, Registry.stdioBuiltins,
    List.mem_append, List.mem_flatMap, List.mem_cons, List.not_mem_nil, or_false, Prod.mk.injEq]
    at hf
  rcases hf with (⟨n, hn, ⟨rfl, rfl, rfl⟩ | ⟨rfl, rfl, rfl⟩⟩ | ⟨rfl, rfl, rfl⟩ | ⟨rfl, rfl, rfl⟩) |
    ⟨rfl, rfl, rfl⟩
  · -- a Double routine
    obtain ⟨x, rfl⟩ := List.length_eq_one_iff.1 hxs
    obtain ⟨w, hw⟩ := Registry.double_routine_unary hn x.toDouble
    exact ⟨_, _, builtinScalar_double (Registry.mathRoutines_symbols _ (List.mem_append_left _ hn)).1
      rfl hw, rfl⟩
  · -- a Float routine, named with its suffix
    obtain ⟨x, rfl⟩ := List.length_eq_one_iff.1 hxs
    obtain ⟨-, hput, hend⟩ := Registry.mathRoutines_symbols n (List.mem_append_left _ hn)
    obtain ⟨w, hw⟩ := Registry.single_routine_unary hn
      (UInt32.ofNat (Ieee.binary64.convert Ieee.binary32 x.toDouble.toNat))
    exact ⟨_, _, builtinScalar_single hput rfl rfl hend hw, rfl⟩
  · obtain ⟨x, y, rfl⟩ := List.length_eq_two.1 hxs
    exact ⟨_, _, builtinScalar_double (by show "pow" ≠ "putchar"; decide) rfl rfl, rfl⟩
  · obtain ⟨x, y, rfl⟩ := List.length_eq_two.1 hxs
    exact ⟨_, _, builtinScalar_single (n := "pow") (by show "powf" ≠ "putchar"; decide) rfl
      (by show "powf" = "pow" ++ "f"; decide) (by show "powf".endsWith "f" = true; decide +kernel)
      rfl, rfl⟩
  · obtain ⟨x, rfl⟩ := List.length_eq_one_iff.1 hxs
    exact ⟨_, _, rfl, rfl⟩

/-- Every parameter of a standard builtin is a scalar. -/
theorem FunctionRef.IsStandard.param_scalar (hf : f.IsStandard) {p : Ty} (hp : p ∈ f.sig.params) :
    ∃ s, p = .scalar s := by
  obtain ⟨id, sym, ⟨ret, params⟩, builtin⟩ := f
  simp only [FunctionRef.IsStandard, standardBuiltins, Registry.mathBuiltins, Registry.stdioBuiltins,
    List.mem_append, List.mem_flatMap, List.mem_cons, List.not_mem_nil, or_false, Prod.mk.injEq]
    at hf
  rcases hf with (⟨n, hn, ⟨rfl, rfl, rfl⟩ | ⟨rfl, rfl, rfl⟩⟩ | ⟨rfl, rfl, rfl⟩ | ⟨rfl, rfl, rfl⟩) |
    ⟨rfl, rfl, rfl⟩ <;>
  · simp only [List.mem_cons, List.not_mem_nil, or_false, or_self] at hp
    exact ⟨_, hp⟩

end Builtins

namespace Interpreter

/-! ## The primitive steps -/

section Steps

variable {lib : Library} {fr : Frame} {m : Machine} {E : RunError → Prop}

theorem declareLocal_within (hfr : fr.OfLibrary lib) {v : Value} (hv : v.WellFormed)
    (name : String) (ty : Ty) (span : Span) :
    Within (declareLocal name ty v span) fr m (·.isCompileOrFault) fun _ fr' _ =>
      fr'.OfLibrary lib ∧ fr'.ret = fr.ret := by
  unfold declareLocal
  refine Within.bind_get (Within.bind_liftCompile (fun _ _ => rfl) fun sc hsc => ?_)
  refine Within.set ⟨⟨?_, fun w hw => ?_⟩, rfl⟩
  · rw [Scope.declare_eq_ok hsc]
    exact hfr.globals
  · rcases Array.mem_push.1 hw with hw | rfl
    · exact hfr.slots w hw
    · exact hv

theorem alloc_within (data : Array Scalar) : Within (alloc data) fr m E fun _ fr' _ => fr' = fr :=
  Within.bind_machine (Within.bind_modifyMachine (Within.pure rfl))

/-- The zero of a type is well formed: an array's zero points to a fresh region. -/
theorem zeroValue_within (ty : Ty) :
    Within (zeroValue ty) fr m E fun v fr' _ => fr' = fr ∧ v.WellFormed := by
  cases ty with
  | array e n =>
    exact Within.bind (alloc_within _) fun _ _ _ h => Within.pure ⟨h, rfl⟩
  | unbounded e =>
    exact Within.bind (alloc_within _) fun _ _ _ h => Within.pure ⟨h, rfl⟩
  | slice e =>
    exact Within.bind (alloc_within _) fun _ _ _ h => Within.pure ⟨h, rfl⟩
  | _ => exact Within.pure ⟨rfl, trivial⟩

theorem loadPlace_within (hfr : fr.OfLibrary lib) (p : Place) :
    Within (loadPlace p) fr m E fun v fr' _ => fr' = fr ∧ v.WellFormed := by
  cases p with
  | slot i t => exact Within.bind_get (Within.pure ⟨rfl, hfr.getD i⟩)
  | lane k l e =>
    refine Within.bind_get ?_
    split <;> exact Within.pure ⟨rfl, trivial⟩
  | element r i e => exact Within.bind_machine (Within.pure ⟨rfl, trivial⟩)

/-- A store of a well-formed value keeps the frame one of the library. -/
theorem storePlace_within (hfr : fr.OfLibrary lib) (p : Place) {v : Value} (hv : v.WellFormed) :
    Within (storePlace p v) fr m E fun _ fr' _ => fr'.OfLibrary lib ∧ fr'.ret = fr.ret := by
  cases p with
  | slot i t => exact Within.modifyFrame ⟨hfr.setSlot i hv, rfl⟩
  | lane k l e =>
    cases v with
    | scalar s =>
      refine Within.modifyFrame ?_
      split
      · exact ⟨hfr.setSlot k trivial, rfl⟩
      · exact ⟨hfr, rfl⟩
    | _ => exact Within.pure ⟨hfr, rfl⟩
  | element r i e =>
    cases v with
    | scalar s => exact Within.modifyMachine ⟨hfr, rfl⟩
    | _ => exact Within.pure ⟨hfr, rfl⟩

theorem scalarOf_eq_error {v : Value} {span : Span} {e : RunError} (h : scalarOf v span = .error e) :
    (∃ c, e = .compile c) ∧ ∀ s, v ≠ .scalar s := by
  cases v with
  | scalar s => cases h
  | _ =>
    cases h
    exact ⟨⟨_, rfl⟩, fun _ h => nomatch h⟩

/-- The arguments of a builtin, read as scalars: a failure names an argument that is none. -/
theorem mapM_scalarOf_within (args : List Value) (span : Span) :
    Within (args.mapM fun v => Run.ofExcept (scalarOf v span)) fr m
      (fun e => (∃ c, e = .compile c) ∧ ∃ v ∈ args, ∀ s, v ≠ .scalar s)
      fun xs fr' _ => fr' = fr ∧ xs.length = args.length := by
  induction args generalizing m with
  | nil => exact Within.pure ⟨rfl, rfl⟩
  | cons v rest ih =>
    rw [List.mapM_cons]
    refine Within.bind_ofExcept (fun e he => ?_) fun x _ => ?_
    · obtain ⟨hc, hv⟩ := scalarOf_eq_error he
      exact ⟨hc, v, List.mem_cons_self .., hv⟩
    refine Within.bind ((ih (m := m)).mono (fun e he => ?_) fun xs fr' m' h => h)
      fun xs fr₁ m₁ h => Within.pure ⟨h.1, by simp [h.2]⟩
    obtain ⟨hc, w, hw, hws⟩ := he
    exact ⟨hc, w, List.mem_cons_of_mem _ hw, hws⟩

/-- A standard builtin called with as many arguments as it has parameters fails only on an
argument that is no scalar, and otherwise returns a scalar of its return type. -/
theorem callBuiltin_within {f : FunctionRef} {args : List Value} {span : Span} (hf : f.IsStandard)
    (hlen : args.length = f.sig.params.length) :
    Within (callBuiltin f args span) fr m
      (fun e => (∃ c, e = .compile c) ∧ ∃ v ∈ args, ∀ s, v ≠ .scalar s)
      fun v fr' _ => fr' = fr ∧ ∃ r, v = .scalar r ∧ Ty.scalar r.ty = f.sig.ret := by
  unfold callBuiltin
  refine Within.bind (mapM_scalarOf_within args span) fun xs fr₁ m₁ h => ?_
  obtain ⟨rfl, hxs⟩ := h
  obtain ⟨r, byte, hout, hty⟩ := builtinScalar_standard hf (hxs.trans hlen)
  rw [hout]
  simp only [Run.ofExcept, pure_bind]
  split
  · exact Within.bind_modifyMachine (Within.pure ⟨rfl, r, rfl, hty⟩)
  · exact Within.pure ⟨rfl, r, rfl, hty⟩

/-- An element position is checked against its region: past it, the run fails with a fault. -/
theorem elementIndex_within (region offset : Nat) (position : Int) (span : Span) :
    Within (elementIndex region offset position span) fr m (·.isFault) fun pos fr' m' =>
      fr' = fr ∧ m' = m ∧ pos < regionSize m region := by
  unfold elementIndex
  dsimp only
  refine Within.bind_machine ?_
  split
  · exact Within.bind_throw rfl
  · rename_i hpos
    exact Within.pure ⟨rfl, rfl, by omega⟩

theorem rangeBounds_within (fr₀ : Frame) (iter : Expr) :
    Within (rangeBounds fr₀ iter) fr m (·.isCompileOrFault) fun _ fr' _ => fr' = fr := by
  unfold rangeBounds
  dsimp only
  split
  · split
    · split
      · exact Within.bind_compileError rfl
      · split
        · exact Within.pure rfl
        · exact Within.pure rfl
        · exact Within.compileError rfl
        · exact Within.compileError rfl
    · exact Within.compileError rfl
  · exact Within.compileError rfl

theorem declareVars_within (hfr : fr.OfLibrary lib) {args : List Expr} {kws : List Keyword}
    {span : Span} :
    Within (declareVars args kws span) fr m (·.isCompileOrFault) fun _ fr' _ =>
      fr'.OfLibrary lib ∧ fr'.ret = fr.ret := by
  unfold declareVars
  dsimp only
  split
  · exact Within.bind_compileError rfl
  split
  · exact Within.bind_compileError rfl
  -- each pass declares one name with the zero of its type
  refine Within.bind (Within.forIn (fun fr' _ => fr'.OfLibrary lib ∧ fr'.ret = fr.ret) ?_
    ⟨hfr, rfl⟩) fun _ _ _ h => Within.pure h
  rintro kw _ _ fr₁ m₁ ⟨hfr₁, hret₁⟩
  refine Within.bind_get (Within.bind_liftCompile (fun _ _ => rfl) fun ty _ => ?_)
  split
  · exact Within.bind_compileError rfl
  refine Within.bind_liftCompile (fun _ _ => rfl) fun _ _ => ?_
  refine Within.bind (zeroValue_within ty) fun v fr₂ m₂ h => ?_
  obtain ⟨rfl, hv⟩ := h
  exact Within.bind (declareLocal_within hfr₁ hv kw.name ty kw.span) fun _ _ _ h =>
    Within.pure ⟨h.1, h.2.trans hret₁⟩

/-! The operators of values fail with compile errors, and integer division by zero. -/

theorem Except.map_eq_error {ε α β : Type} {f : α → β} {x : Except ε α} {e : ε}
    (h : (f <$> x) = .error e) : x = .error e := by
  cases x with
  | error e' => cases h; rfl
  | ok a => cases h

theorem mapM_eq_error {α β ε : Type} {f : α → Except ε β} {e : ε} :
    ∀ {xs : List α}, xs.mapM f = .error e → ∃ x ∈ xs, f x = .error e
  | [], h => nomatch h
  | x :: xs, h => by
    rw [List.mapM_cons, Except.bind_eq_error] at h
    rcases h with h | ⟨_, -, h⟩
    · exact ⟨x, List.mem_cons_self .., h⟩
    rw [Except.bind_eq_error] at h
    rcases h with h | ⟨_, -, h⟩
    · obtain ⟨y, hy, hf⟩ := mapM_eq_error h
      exact ⟨y, List.mem_cons_of_mem x hy, hf⟩
    · cases h

section Errors

variable {e : RunError} {span : Span}

theorem castValue_eq_error {v : Value} {dst : Ty} (h : castValue v dst span = .error e) :
    e.isCompileOrFault = true := by
  dsimp only [castValue] at h
  split at h
  · cases h
    rfl
  split at h
  · cases h
  split at h <;> cases h
  all_goals rfl

theorem truthyValue_eq_error {v : Value} (h : truthyValue v span = .error e) :
    e.isCompileOrFault = true := by
  unfold truthyValue at h
  rcases Except.bind_eq_error.1 h with h | ⟨_, -, h⟩
  · exact castValue_eq_error h
  · split at h
    · cases h
    · cases h
      rfl

theorem realBinary_eq_error {α : Type} {add sub mul div rem : α → α → α} {op : BinOp} {x y : α}
    (h : realBinary add sub mul div rem op x y span = .error e) : e.isCompileOrFault = true := by
  unfold realBinary at h
  split at h <;> cases h
  all_goals rfl

theorem binaryScalar_eq_error {op : BinOp} {a b : Scalar} (h : binaryScalar op a b span = .error e) :
    e.isCompileOrFault = true := by
  unfold binaryScalar at h
  dsimp only at h
  split at h
  · split at h <;> cases h
    all_goals rfl
  split at h
  · exact realBinary_eq_error (Except.map_eq_error h)
  split at h
  · exact realBinary_eq_error (Except.map_eq_error h)
  · -- integers: only a zero divisor fails
    cases op <;> simp only [Except.map] at h <;> try cases h
    all_goals split at h <;> cases h
    all_goals
      rename_i hdiv
      split at hdiv <;> cases hdiv
    all_goals rfl

theorem binaryValue_eq_error {op : BinOp} {l r : Value} (h : binaryValue op l r span = .error e) :
    e.isCompileOrFault = true := by
  dsimp only [binaryValue] at h
  split at h
  · split at h
    · cases h
      rfl
    rcases Except.bind_eq_error.1 h with h | ⟨_, -, h⟩
    · exact castValue_eq_error h
    rcases Except.bind_eq_error.1 h with h | ⟨_, -, h⟩
    · exact castValue_eq_error h
    split at h
    · exact binaryScalar_eq_error (Except.map_eq_error h)
    · obtain ⟨_, -, h⟩ := mapM_eq_error (Except.map_eq_error h)
      exact binaryScalar_eq_error h
    · cases h
      rfl
  · cases h
    rfl

theorem compareValue_eq_error {op : CmpOp} {l r : Value} (h : compareValue op l r span = .error e) :
    e.isCompileOrFault = true := by
  dsimp only [compareValue] at h
  split at h
  · split at h
    · rcases Except.bind_eq_error.1 h with h | ⟨_, -, h⟩
      · exact castValue_eq_error h
      rcases Except.bind_eq_error.1 h with h | ⟨_, -, h⟩
      · exact castValue_eq_error h
      split at h
      · have h := Except.map_eq_error h
        unfold compareScalar at h
        dsimp only at h
        split at h
        · split at h <;> cases h
          rfl
        · split at h <;> cases h
      · cases h
        rfl
    · cases h
      rfl
  · cases h
    rfl

theorem unaryScalar_eq_error {op : UnaryOp} {x : Scalar} (h : unaryScalar op x span = .error e) :
    e.isCompileOrFault = true := by
  dsimp only [unaryScalar] at h
  split at h <;> try cases h
  all_goals try rfl
  split at h <;> cases h
  rfl

theorem unaryValue_eq_error {op : UnaryOp} {v : Value} {operandSpan : Span}
    (h : unaryValue op v operandSpan span = .error e) : e.isCompileOrFault = true := by
  dsimp only [unaryValue] at h
  split at h
  · rcases Except.bind_eq_error.1 h with h | ⟨_, -, h⟩
    · exact truthyValue_eq_error h
    · cases h
  split at h
  · exact unaryScalar_eq_error (Except.map_eq_error h)
  · obtain ⟨_, -, h⟩ := mapM_eq_error (Except.map_eq_error h)
    exact unaryScalar_eq_error h
  · cases h
    rfl

theorem constantValue_eq_error {lit : Literal} (h : constantValue lit span = .error e) :
    e.isCompileOrFault = true := by
  unfold constantValue at h
  split at h <;> cases h
  rfl

theorem indexOf_eq_error {v : Value} (h : indexOf v span = .error e) : e.isCompileOrFault = true := by
  unfold indexOf indexOf.bad at h
  split at h
  · split at h <;> cases h
    rfl
  · cases h
    rfl

theorem laneIndex_eq_error {position : Int} {lanes : Nat}
    (h : laneIndex position lanes span = .error e) : e.isFault = true := by
  unfold laneIndex at h
  split at h <;> cases h
  rfl

end Errors

/-! The operators of values give scalars and vectors, never pointers. -/

theorem binaryValue_wellFormed {op : BinOp} {l r v : Value} {span : Span}
    (h : binaryValue op l r span = .ok v) : v.WellFormed := by
  dsimp only [binaryValue] at h
  split at h
  · split at h
    · simp at h
    obtain ⟨_, -, h⟩ := Except.bind_eq_ok.1 h
    obtain ⟨_, -, h⟩ := Except.bind_eq_ok.1 h
    split at h
    · obtain ⟨_, -, rfl⟩ := Except.map_eq_ok.1 h
      trivial
    · obtain ⟨_, -, rfl⟩ := Except.map_eq_ok.1 h
      trivial
    · simp at h
  · simp at h

theorem compareValue_wellFormed {op : CmpOp} {l r v : Value} {span : Span}
    (h : compareValue op l r span = .ok v) : v.WellFormed := by
  dsimp only [compareValue] at h
  split at h
  · split at h
    · obtain ⟨_, -, h⟩ := Except.bind_eq_ok.1 h
      obtain ⟨_, -, h⟩ := Except.bind_eq_ok.1 h
      split at h
      · obtain ⟨_, -, rfl⟩ := Except.map_eq_ok.1 h
        trivial
      · simp at h
    · simp at h
  · simp at h

theorem unaryValue_wellFormed {op : UnaryOp} {v w : Value} {operandSpan span : Span}
    (h : unaryValue op v operandSpan span = .ok w) : w.WellFormed := by
  dsimp only [unaryValue] at h
  split at h
  · obtain ⟨_, -, h⟩ := Except.bind_eq_ok.1 h
    cases h
    trivial
  split at h
  · obtain ⟨_, -, rfl⟩ := Except.map_eq_ok.1 h
    trivial
  · obtain ⟨_, -, rfl⟩ := Except.map_eq_ok.1 h
    trivial
  · simp at h

theorem constantValue_wellFormed {lit : Literal} {span : Span} {w : Value}
    (h : constantValue lit span = .ok w) : w.WellFormed := by
  unfold constantValue at h
  split at h
  · cases h
    trivial
  · cases h

end Steps

end Interpreter

end TypedJit

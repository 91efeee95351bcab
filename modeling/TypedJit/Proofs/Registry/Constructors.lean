import TypedJit.Proofs.Registry.Session
import TypedJit.Proofs.Globals.TypeExpr

/-!
No registry operation binds a type constructor: the constructors of a session's namespace are the
prelude's.
-/

open Std.Do

set_option mvcgen.warning false

namespace TypedJit

/-- Every type constructor `g'` binds, `g` binds under the same name. -/
def Globals.CtorsFrom (g g' : Globals) : Prop :=
  ∀ n k, g'.find? n = some (.ctor k) → g.find? n = some (.ctor k)

namespace Globals.CtorsFrom

variable {g₁ g₂ g₃ : Globals}

theorem refl (g : Globals) : g.CtorsFrom g := fun _ _ h => h

theorem trans (h₁ : g₁.CtorsFrom g₂) (h₂ : g₂.CtorsFrom g₃) : g₁.CtorsFrom g₃ :=
  fun n k h => h₁ n k (h₂ n k h)

/-- Binding a new name to something other than a constructor. -/
theorem insert {n : String} {s : GlobalSymbol} (hn : g₁.contains n = false)
    (hs : ∀ k, s ≠ .ctor k) : g₁.CtorsFrom (g₁.insert n s) := by
  intro m k h
  rw [Globals.find?_insert hn] at h
  split at h
  · exact absurd (Option.some.inj h) (hs k)
  · exact h

end Globals.CtorsFrom

namespace Registry

variable {r r' : Registry}

/-! ## The registry steps -/

/-- Binding a free name to something other than a constructor. -/
theorem bindFree_ctors {n : String} {s : GlobalSymbol} (hs : ∀ k, s ≠ .ctor k)
    (h : (r.ensureFree n >>= fun _ => pure { r with globals := r.globals.insert n s } :
      Except JitError Registry) = .ok r') : r.globals.CtorsFrom r'.globals := by
  obtain ⟨⟨⟩, hfree, h⟩ := Except.bind_eq_ok.1 h
  cases h
  exact Globals.CtorsFrom.insert (ensureFree_eq_ok hfree) hs

theorem defineConstant_ctors {n : String} {v : Scalar} (h : r.defineConstant n v = .ok r') :
    r.globals.CtorsFrom r'.globals :=
  bindFree_ctors (fun _ h => by cases h) h

theorem defineType_ctors {n : String} {t : Ty} (h : r.defineType n t = .ok r') :
    r.globals.CtorsFrom r'.globals :=
  bindFree_ctors (fun _ h => by cases h) h

theorem declareBuiltin_ctors {n sym : String} {ret : Ty} {ps : List Ty}
    (h : r.declareBuiltin n sym ret ps = .ok r') : r.globals.CtorsFrom r'.globals := by
  unfold declareBuiltin at h
  obtain ⟨⟨⟩, hfree, h⟩ := Except.bind_eq_ok.1 h
  obtain ⟨⟨⟩, -, h⟩ := Except.bind_eq_ok.1 h
  cases h
  exact Globals.CtorsFrom.insert (ensureFree_eq_ok hfree) fun _ h => by cases h

theorem declareEach_ctors : ∀ (r : Registry) (ds : List BuiltinDecl),
    r.globals.CtorsFrom (r.declareEach ds).1.globals
  | r, [] => Globals.CtorsFrom.refl _
  | r, (n, ret, ps) :: ds => by
    unfold declareEach
    split
    · rename_i next h
      exact (declareBuiltin_ctors h).trans (declareEach_ctors next ds)
    · exact Globals.CtorsFrom.refl _

theorem addEntry_ctors {n : String} {sig : Signature} {body : Option FunctionDef} {id : Nat}
    (h : r.addEntry n sig body = .ok (id, r')) : r.globals.CtorsFrom r'.globals := by
  unfold addEntry at h
  split at h
  · cases h
  · rename_i hn
    obtain ⟨⟨⟩, -, h⟩ := Except.bind_eq_ok.1 h
    cases h
    exact Globals.CtorsFrom.insert (by simpa using hn) fun _ h => by cases h

theorem forwardDeclare_ctors {n : String} {ret : Ty} {ps : List Ty} {id : Nat}
    (h : r.forwardDeclare n ret ps = .ok (id, r')) : r.globals.CtorsFrom r'.globals := by
  unfold forwardDeclare at h
  split at h
  · dsimp only at h
    split at h
    · cases h
      exact Globals.CtorsFrom.refl _
    · cases h
  · exact addEntry_ctors h

theorem register_ctors {f : FunctionDef} {ret : Ty} {ps : List Ty} {id : Nat}
    (h : r.register f ret ps = .ok (id, r')) : r.globals.CtorsFrom r'.globals := by
  unfold register at h
  obtain ⟨⟨⟩, -, h⟩ := Except.bind_eq_ok.1 h
  split at h
  · dsimp only at h
    obtain ⟨e, -, h⟩ := Except.bind_eq_ok.1 h
    split at h
    · cases h
    · split at h
      · cases h
      · cases h
        exact Globals.CtorsFrom.refl _
  · exact addEntry_ctors h

end Registry

/-! ## The actions -/

/-- `x` binds no new constructor, whether it succeeds or fails. -/
def Jit.KeepsCtors {α : Type} (x : Jit α) : Prop :=
  ∀ g : Globals, ⦃fun r => ⌜g.CtorsFrom r.globals⌝⦄ x
    ⦃post⟨fun _ r => ⌜g.CtorsFrom r.globals⌝, fun _ r => ⌜g.CtorsFrom r.globals⌝⟩⦄

namespace Jit

theorem KeepsCtors.run {α : Type} {x : Jit α} (h : x.KeepsCtors) (r : Registry) :
    r.globals.CtorsFrom (x.run.run r).2.globals := by
  have h := h r.globals r (Globals.CtorsFrom.refl _)
  simp only [wp, PredTrans.pushExcept, PredTrans.pushArg, PredTrans.apply, StateT.run,
    ExceptT.run, Id.run] at h
  rcases hx : x r with ⟨a | a, r'⟩ <;>
    simpa [hx, StateT.run, ExceptT.run, Pure.pure, PredTrans.pure, PredTrans.trans] using h

theorem KeepsCtors.discard {α : Type} {x : Jit α} (h : x.KeepsCtors) : (discard x).KeepsCtors := by
  intro g
  have h := h g
  show ⦃_⦄ (do let _ ← x; pure ()) ⦃_⦄
  mvcgen [h]

theorem change_ctors {f : Registry → Except JitError Registry}
    (hf : ∀ r r', f r = .ok r' → r.globals.CtorsFrom r'.globals) : (change f).KeepsCtors := by
  intro g
  mvcgen [change, ofExcept]
  exact ‹g.CtorsFrom _›.trans (hf _ _ ‹_›)

theorem update_ctors {α : Type} {f : Registry → Except JitError (α × Registry)}
    (hf : ∀ r a r', f r = .ok (a, r') → r.globals.CtorsFrom r'.globals) :
    (update f).KeepsCtors := by
  intro g
  mvcgen [update, ofExcept]
  exact ‹g.CtorsFrom _›.trans (hf _ _ _ ‹_›)

theorem apply_ctors {f : Registry → Registry × Option JitError}
    (hf : ∀ r : Registry, r.globals.CtorsFrom (f r).1.globals) : (apply f).KeepsCtors := by
  intro g
  mvcgen [apply]
  all_goals exact ‹g.CtorsFrom _›.trans (hf _)

end Jit

theorem compile_ctors (id : Nat) : (compile id).KeepsCtors := by
  intro g
  mvcgen [compile, Jit.ofExcept]

theorem optimize_ctors (id : Nat) : (optimize id).KeepsCtors := by
  intro g
  mvcgen [optimize, Jit.entry, Jit.ofExcept]

theorem Registry.globals_modifyEntry (r : Registry) (i : Nat) (f : Registry.Entry → Registry.Entry) :
    (r.modifyEntry i f).globals = r.globals := rfl

/-- Changing entries one by one leaves the global bindings. -/
theorem Registry.globals_foldl_modifyEntry (f : Registry.Entry → Registry.Entry) (order : List Nat)
    (r : Registry) : (order.foldl (fun r i => r.modifyEntry i f) r).globals = r.globals := by
  induction order generalizing r with
  | nil => rfl
  | cons i order ih => rw [List.foldl_cons, ih, Registry.globals_modifyEntry]

theorem bind_ctors (id : Nat) : (bind id).KeepsCtors := by
  intro g
  mvcgen [bind, Jit.entry, Jit.ofExcept]
  -- sealing what the function reaches changes entries only
  simp +zetaDelta only [Registry.globals_modifyEntry, Registry.globals_foldl_modifyEntry]
  assumption

theorem invoke_ctors (id : Nat) (args : List Arg) : (invoke id args).KeepsCtors := by
  intro g
  have hbind := bind_ctors id g
  mvcgen [invoke, Jit.entry, Jit.ofExcept, hbind]

theorem runReference_ctors (id : Nat) (args : List Arg) : (runReference id args).KeepsCtors := by
  intro g
  mvcgen [runReference, Jit.entry, Jit.ofExcept]

theorem define_ctors (f : FunctionDef) (ret : Ty) (params : List Ty) :
    (define f ret params).KeepsCtors := by
  intro g
  have hreg := Jit.update_ctors (f := (·.register f ret params))
    (fun _ _ _ h => Registry.register_ctors h) g
  have hcompile := fun id => compile_ctors id g
  have hoptimize := fun id => optimize_ctors id g
  mvcgen [define, hreg, hcompile, hoptimize]

namespace Registry

theorem Op.run_ctors (op : Op) : op.run.KeepsCtors := by
  cases op <;> simp only [Op.run]
  case defineConstant => exact Jit.change_ctors fun _ _ h => defineConstant_ctors h
  case defineType => exact Jit.change_ctors fun _ _ h => defineType_ctors h
  case declareBuiltin => exact Jit.change_ctors fun _ _ h => declareBuiltin_ctors h
  case declareMath => exact Jit.apply_ctors fun r => declareEach_ctors r _
  case declareStdio => exact Jit.apply_ctors fun r => declareEach_ctors r _
  case forwardDeclare => exact (Jit.update_ctors fun _ _ _ h => forwardDeclare_ctors h).discard
  case register => exact (Jit.update_ctors fun _ _ _ h => register_ctors h).discard
  case define f ret ps => exact (define_ctors f ret ps).discard
  case compile id => exact compile_ctors id
  case optimize id => exact optimize_ctors id
  case invoke id args => exact (invoke_ctors id args).discard
  case runReference id args => exact (runReference_ctors id args).discard

theorem runOps_ctors (ops : List Op) : ∀ r : Registry, r.globals.CtorsFrom (r.runOps ops).globals := by
  induction ops with
  | nil => exact fun r => Globals.CtorsFrom.refl _
  | cons op ops ih =>
    intro r
    exact ((Op.run_ctors op).run r).trans (ih _)

/-- Every namespace a session builds binds no constructor under the empty name, as the prelude it
starts from. -/
theorem runOps_find_empty (cfg : Config) (ops : List Op) (k : TypeConstructor) :
    (({ config := cfg } : Registry).runOps ops).globals.find? "" ≠ some (.ctor k) := by
  intro h
  have hstart := runOps_ctors ops { config := cfg } "" k h
  rw [show ({ config := cfg } : Registry).globals = Globals.prelude from rfl,
    Globals.prelude_find_empty] at hstart
  cases hstart

end Registry

end TypedJit

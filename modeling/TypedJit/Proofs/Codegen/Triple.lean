import Std.Tactic.Do
import TypedJit.Codegen.Function

/-!
Triples over the code generator.
-/

namespace TypedJit.Codegen

open Std.Do

set_option mvcgen.warning false

/-- A triple over `Gen` with state assertions only: every successful run from a state in `P`
ends in a state in `Q`. -/
theorem triple_iff_run {α : Type} (x : Gen α) (P : GenState → Prop) (Q : α → GenState → Prop) :
    ⦃fun s _ => ⌜P s⌝⦄ x ⦃⇓? a s _ => ⌜Q a s⌝⦄ ↔
      ∀ s t a s' t', P s → ((x.run s).run.run t) = (.ok (a, s'), t') → Q a s' := by
  simp only [Triple, wp, PredTrans.pushArg, PredTrans.pushExcept, PredTrans.apply,
    PostCond.mayThrow, SPred.entails, StateT.run, Id.run, Pure.pure, PredTrans.pure]
  constructor
  · intro h s t a s' t' hp hrun
    have hpost := h s t hp
    rw [hrun] at hpost
    simpa using hpost
  · intro h s t hp
    rcases hrun : (x s).run t with ⟨r, t'⟩
    rcases r with e | ⟨a, s'⟩
    · simp [ExceptConds.true, ExceptConds.const]
    · simpa using h s t a s' t' hp hrun


/-- Rewriting the error of a failed run is all `Gen.mapError` does. -/
theorem wp_mapError {α : Type} (f : CompileError → CompileError) (x : Gen α)
    (Q : PostCond α (.arg GenState (.except CompileError (.arg SessionStats .pure)))) :
    wp⟦Gen.mapError f x⟧ Q = wp⟦x⟧ (Q.1, fun e => Q.2.1 (f e), Q.2.2) := by
  ext s
  simp [Gen.mapError]

@[spec]
theorem mapError_spec {α : Type} (f : CompileError → CompileError) (x : Gen α)
    (Q : PostCond α (.arg GenState (.except CompileError (.arg SessionStats .pure)))) :
    ⦃wp⟦x⟧ (Q.1, fun e => Q.2.1 (f e), Q.2.2)⦄ Gen.mapError f x ⦃Q⦄ := by
  rw [Triple.iff, wp_mapError]

/-- `x` keeps the state assertion `P` over every successful run. -/
abbrev Keeps {α : Type} (P : GenState → Prop) (x : Gen α) : Prop :=
  ⦃fun s _ => ⌜P s⌝⦄ x ⦃⇓? _ s _ => ⌜P s⌝⦄

theorem discard_eq {α : Type} (x : Gen α) : discard x = (do let _ ← x; pure ()) := rfl

theorem Keeps.discard {P : GenState → Prop} {α : Type} {x : Gen α} (h : Keeps P x) :
    Keeps P (discard x) := by
  rw [discard_eq]
  mvcgen [h]

end TypedJit.Codegen

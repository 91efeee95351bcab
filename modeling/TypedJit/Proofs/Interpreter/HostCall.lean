import Mathlib.Data.List.Forall2
import TypedJit.Host.Check
import TypedJit.Interpreter.Call
import TypedJit.Proofs.Interpreter.Statements

/-!
# Host buffers around an interpreted call
-/

namespace TypedJit

namespace HostBuffer

theorem setOrKeep_of_fits {b : HostBuffer} {i : Nat} {x : Scalar} (hi : i < b.size)
    (hx : x.ty = b.elem) : b.setOrKeep i x = { b with data := b.data.set! i x } := by
  simp only [size] at hi
  simp [setOrKeep, set?, hi, hx]

/-- Copying the first `n` elements of `data`, all of the buffer's type and as many as it holds,
into the buffer element by element sets exactly those elements. -/
theorem foldl_setOrKeep {data : Array Scalar} {b : HostBuffer} (hsize : data.size = b.size)
    (hty : ∀ x ∈ data, x.ty = b.elem) (n : Nat) :
    let b' := (List.range n).foldl (fun b j => (data[j]?).elim b (b.setOrKeep j ·)) b
    b'.elem = b.elem ∧ b'.size = b.size ∧
      ∀ j, b'.data[j]? = if j < n then data[j]? else b.data[j]? := by
  induction n with
  | zero => simp
  | succ n ih =>
    obtain ⟨he, hs, hget⟩ := ih
    rw [List.range_succ, List.foldl_append]
    simp only [List.foldl_cons, List.foldl_nil]
    generalize List.foldl _ b (List.range n) = b' at he hs hget ⊢
    cases hx : data[n]? with
    | none =>
      -- past the end of `data`, which is past the end of the buffer too
      have hn : b.size ≤ n := hsize ▸ Array.getElem?_eq_none_iff.1 hx
      refine ⟨he, hs, fun j => ?_⟩
      rw [Option.elim_none, hget j]
      by_cases hj : j < n
      · simp [hj, Nat.lt_succ_of_lt hj]
      · by_cases hjn : j = n
        · subst hjn
          simp [hx, Array.getElem?_eq_none_iff.2 (show b.data.size ≤ j from hn)]
        · simp [hj, show ¬j < n + 1 by omega]
    | some x =>
      have hn : n < b'.size := by
        rw [hs, ← hsize]
        exact (Array.getElem?_eq_some_iff.1 hx).1
      have hxty : x.ty = b'.elem := by
        rw [he]
        exact hty x (Array.mem_of_getElem? hx)
      rw [Option.elim_some, setOrKeep_of_fits hn hxty]
      refine ⟨he, by simpa [size] using hs, fun j => ?_⟩
      rw [Array.set!_eq_setIfInBounds, Array.getElem?_setIfInBounds]
      by_cases hjn : j = n
      · subst hjn
        simp [hx, show j < b'.data.size from hn]
      · rw [if_neg (Ne.symm hjn), hget j]
        by_cases hj : j < n
        · simp [hj, Nat.lt_succ_of_lt hj]
        · simp [hj, show ¬j < n + 1 by omega]

end HostBuffer

namespace Interpreter

/-- A region of the buffer's length whose scalars all have the buffer's element type is copied
back whole: the buffer ends holding the region. -/
theorem copyBack_of_region {m : Machine} {b : HostBuffer} {r : Nat} {data : Array Scalar}
    (hr : m.regions[r]? = some data) (hsize : data.size = b.size)
    (hty : ∀ x ∈ data, x.ty = b.elem) : copyBack m b r = { b with data := data } := by
  have key := HostBuffer.foldl_setOrKeep hsize hty data.size
  simp only [copyBack, hr, Option.getD_some]
  generalize List.foldl _ b (List.range data.size) = b' at key ⊢
  obtain ⟨he, -, hget⟩ := key
  have hdata : b'.data = data := by
    apply Array.ext_getElem?
    intro j
    rw [hget j]
    split
    · rfl
    · rename_i hj
      have hb : b.data.size = data.size := hsize.symm
      rw [Array.getElem?_eq_none_iff.2 (by omega), Array.getElem?_eq_none_iff.2 (by omega)]
  cases b'
  simp only at he hdata
  subst he hdata
  rfl

/-- What binding host arguments keeps: every value passed so far agrees with memory, and the
buffers bound so far are held, in order, by the regions listed. -/
def BindsBuffers (bufs : List HostBuffer) (acc : List Value × Machine × List Nat) : Prop :=
  (∀ v ∈ acc.1, v.Typed acc.2.1.shape) ∧
    List.Forall₂ (fun b r => acc.2.1.regions[r]? = some b.data) bufs acc.2.2

/-- Binding one argument that fits its parameter keeps `BindsBuffers`, and only adds regions. -/
theorem bindArg_binds {bufs : List HostBuffer} {acc : List Value × Machine × List Nat}
    (h : BindsBuffers bufs acc) {a : Arg} {p : Ty} (hap : a.matches p = true)
    (hbuf : ∀ b, a = .buffer b → ∀ x ∈ b.data, x.ty = b.elem) :
    BindsBuffers (bufs ++ Arg.buffers [a]) (bindArg acc (a, p)) ∧
      acc.2.1.shape <+: (bindArg acc (a, p)).2.1.shape := by
  obtain ⟨vs, m, rs⟩ := acc
  obtain ⟨hvs, hrs⟩ := h
  cases a with
  | scalar s =>
    refine ⟨⟨?_, by simpa [Arg.buffers, bindArg] using hrs⟩, by simp [bindArg]⟩
    intro v hv
    simp only [bindArg, List.mem_append, List.mem_singleton] at hv
    rcases hv with hv | rfl
    · exact hvs v hv
    · trivial
  | buffer b =>
    -- the parameter is an array of the buffer's element type
    have hp : p.element = some b.elem := by
      cases p <;> simp_all [Arg.matches, Ty.element]
    have hgrow : m.shape <+: (m.shape ++ [b.data.toList.map Scalar.ty]) := List.prefix_append _ _
    simp only [BindsBuffers, bindArg, Machine.shape_push]
    refine ⟨⟨fun v hv => ?_, ?_⟩, hgrow⟩
    · simp only [List.mem_append, List.mem_singleton] at hv
      rcases hv with hv | rfl
      · exact (hvs v hv).mono hgrow
      · refine ⟨b.data.toList.map Scalar.ty, by simp [Machine.shape], fun t ht => ?_⟩
        obtain ⟨x, hx, rfl⟩ := List.mem_map.1 ht
        rw [hp, hbuf b rfl x (Array.mem_toList_iff.1 hx)]
    · simp only [Arg.buffers, List.filterMap_cons, List.filterMap_nil]
      refine List.rel_append ?_ (List.Forall₂.cons (by simp) .nil)
      refine hrs.imp fun b' r hr => ?_
      rw [Array.getElem?_push, if_neg]
      · exact hr
      · rintro rfl
        simp at hr

/-- Binding a list of arguments that fit their parameters keeps `BindsBuffers`, and only adds
regions. -/
theorem foldl_bindArg_binds :
    ∀ (l : List (Arg × Ty)) (bufs : List HostBuffer) (acc : List Value × Machine × List Nat),
      BindsBuffers bufs acc → (∀ ap ∈ l, ap.1.matches ap.2 = true) →
      (∀ ap ∈ l, ∀ b, ap.1 = .buffer b → ∀ x ∈ b.data, x.ty = b.elem) →
      BindsBuffers (bufs ++ Arg.buffers (l.map Prod.fst)) (l.foldl bindArg acc) ∧
        acc.2.1.shape <+: (l.foldl bindArg acc).2.1.shape
  | [], bufs, acc, h, _, _ => by simpa [Arg.buffers] using h
  | (a, p) :: l, bufs, acc, h, hmatch, hbuf => by
    obtain ⟨h₁, hgrow₁⟩ := bindArg_binds h (hmatch (a, p) (by simp)) (hbuf (a, p) (by simp))
    obtain ⟨h₂, hgrow₂⟩ := foldl_bindArg_binds l _ _ h₁ (fun ap hap => hmatch ap (by simp [hap]))
      (fun ap hap => hbuf ap (by simp [hap]))
    have hbufs : Arg.buffers (a :: l.map Prod.fst) = Arg.buffers [a] ++ Arg.buffers (l.map Prod.fst) := by
      simp [Arg.buffers, List.filterMap_cons]
      cases a <;> simp
    refine ⟨?_, hgrow₁.trans hgrow₂⟩
    simpa [hbufs] using h₂

/-- Binding the arguments of a call, when they fit the parameters and each buffer holds scalars
of its element type: the values passed agree with memory, each buffer is copied into the region
listed for it, and memory only grows. -/
theorem bindArgs_binds {args : List Arg} {params : List Ty} (hlen : args.length = params.length)
    (hmatch : ∀ ap ∈ args.zip params, ap.1.matches ap.2 = true)
    (htyped : ∀ b ∈ Arg.buffers args, ∀ x ∈ b.data, x.ty = b.elem) (m : Machine) :
    BindsBuffers (Arg.buffers args) (bindArgs args params m) ∧
      m.shape <+: (bindArgs args params m).2.1.shape := by
  have hbuf : ∀ ap ∈ args.zip params, ∀ b, ap.1 = .buffer b → ∀ x ∈ b.data, x.ty = b.elem := by
    rintro ⟨a, p⟩ hap b rfl
    exact htyped b (by simpa [Arg.buffers] using ⟨_, List.of_mem_zip hap |>.1, rfl⟩)
  have h := foldl_bindArg_binds (args.zip params) [] ([], m, []) ⟨by simp, .nil⟩ hmatch hbuf
  rw [List.map_fst_zip (Nat.le_of_eq hlen), List.nil_append] at h
  exact h

end Interpreter

namespace Machine

/-- A region of a machine whose shape extends another's has the other's length and types. -/
theorem region_of_prefix {m₀ m : Machine} (h : m₀.shape <+: m.shape) {r : Nat}
    {data : Array Scalar} (hr : m₀.regions[r]? = some data) :
    ∃ d, m.regions[r]? = some d ∧ d.toList.map Scalar.ty = data.toList.map Scalar.ty := by
  have hs : m.shape[r]? = some (data.toList.map Scalar.ty) :=
    getElem?_of_prefix h (by rw [shape_getElem?, hr]; rfl)
  rw [shape_getElem?] at hs
  obtain ⟨d, hd, hty⟩ := Option.map_eq_some_iff.1 hs
  exact ⟨d, hd, hty⟩

end Machine


namespace Interpreter

/-- A host call keeps memory well typed and its buffers follow their regions. Every function of
the interpreter, at every budget, keeps the shape of memory and a well typed frame (`Sound`).
A call that does not reach its function's run fails with the buffers as the host passed them.
Otherwise each buffer is copied into a region, and the run from that memory only grows it. If the
run fails, so does the call, with the buffers unchanged. If it completes, the result is the host's
view of the returned value, and each buffer ends holding its region of the machine the run ended
in, still of its length and element type, even when that result is an error. -/
theorem call_buffers_follow_regions (lib : Library) (id : Nat) (args : List Arg) (maxDepth : Nat)
    (hmatch : ∀ f sig, lib.definition? id = some (f, sig) →
      ∀ ap ∈ args.zip sig.params, ap.1.matches ap.2 = true)
    (htyped : ∀ b ∈ Arg.buffers args, ∀ x ∈ b.data, x.ty = b.elem) :
    (∀ fuel, Sound lib fuel) ∧
    ((∀ f sig, lib.definition? id = some (f, sig) → args.length ≠ sig.params.length) →
      (∃ e, (call lib id args maxDepth).result = .error e) ∧
        (call lib id args maxDepth).buffers = Arg.buffers args) ∧
    ∀ f sig values m₀ regions r m,
      lib.definition? id = some (f, sig) → args.length = sig.params.length →
      bindArgs args sig.params { maxDepth } = (values, m₀, regions) →
      ((callFunction lib stepBudget id values Span.unknown).run
        { scope := { globals := lib.globals }, slots := #[], ret := .void }).run.run m₀ = (r, m) →
      List.Forall₂ (fun b r => m₀.regions[r]? = some b.data) (Arg.buffers args) regions ∧
      m₀.shape <+: m.shape ∧
      (∀ e, r = .error e → (call lib id args maxDepth).result = .error e ∧
        (call lib id args maxDepth).buffers = Arg.buffers args) ∧
      ∀ v fr, r = .ok (v, fr) → v.Typed m.shape ∧
        (call lib id args maxDepth).result = hostResult v ∧
        List.Forall₂ (fun (br : HostBuffer × Nat) b' => m.regions[br.2]? = some b'.data ∧
          b'.elem = br.1.elem ∧ b'.size = br.1.size ∧ ∀ x ∈ b'.data, x.ty = br.1.elem)
          ((Arg.buffers args).zip regions) (call lib id args maxDepth).buffers := by
  refine ⟨sound lib, fun hno => ?_, fun f sig values m₀ regions r m hdef hlen hb hr => ?_⟩
  · -- no definition, or the wrong number of arguments
    cases hdef : lib.definition? id with
    | none => simp [call, hdef]
    | some d =>
      obtain ⟨f, sig⟩ := d
      simp [call, hdef, hno f sig hdef]
  obtain ⟨⟨hvalues, hregions⟩, -⟩ := bindArgs_binds hlen (hmatch f sig hdef) htyped { maxDepth }
  rw [hb] at hvalues hregions
  obtain ⟨hshape, hpost⟩ := (sound lib stepBudget).callFunction id values Span.unknown
    { scope := { globals := lib.globals }, slots := #[], ret := .void } m₀ hvalues r m hr
  refine ⟨hregions, hshape, fun e he => ?_, fun v fr hv => ?_⟩
  · subst he
    simp [call, hdef, hlen, hb, hr]
  subst hv
  obtain ⟨-, hvt⟩ := hpost v fr rfl
  refine ⟨hvt, by simp [call, hdef, hlen, hb, hr], ?_⟩
  simp only [call, hdef, hlen, hb, hr, ne_eq, not_true_eq_false, if_false]
  rw [List.forall₂_map_right_iff, List.forall₂_same]
  -- each region kept its buffer's length and element type, so it is copied back whole
  rintro ⟨b, r⟩ hbr
  have hbuf := htyped b (List.of_mem_zip hbr).1
  obtain ⟨d, hd, hdty⟩ := Machine.region_of_prefix hshape ((List.forall₂_iff_zip.1 hregions).2 hbr)
  have hsize : d.size = b.size := by simpa [HostBuffer.size] using congrArg List.length hdty
  have hty : ∀ x ∈ d, x.ty = b.elem := by
    intro x hx
    have hx' : x.ty ∈ b.data.toList.map Scalar.ty := hdty ▸ List.mem_map_of_mem (by simpa using hx)
    obtain ⟨y, hy, hyx⟩ := List.mem_map.1 hx'
    rw [← hyx]
    exact hbuf y (by simpa using hy)
  rw [copyBack_of_region hd hsize hty]
  exact ⟨hd, rfl, hsize, hty⟩

/-- A library of one function, `f(a: Array(Int32)) -> Array(Int32)`, that stores 5 at `a[0]` and
returns `a`. -/
def storeThenReturn : Library where
  globals := Globals.prelude
  name? _ := some "f"
  definition? id := if id = 0 then some
    ({ name := "f", params := [⟨"a", Span.unknown⟩],
       body := [.assign (.index (.name "a" Span.unknown) (.const (.int 0) Span.unknown) Span.unknown)
                  (.const (.int 5) Span.unknown) Span.unknown,
                .ret (some (.name "a" Span.unknown)) Span.unknown] },
     ⟨.unbounded .int32, [.unbounded .int32]⟩) else none

theorem storeThenReturn_buffers_follow_regions :
    let args := [Arg.buffer ⟨.int32, #[.i32 1]⟩]
    (∀ f sig, storeThenReturn.definition? 0 = some (f, sig) →
      ∀ ap ∈ args.zip sig.params, ap.1.matches ap.2 = true) ∧
    (∀ b ∈ Arg.buffers args, ∀ x ∈ b.data, x.ty = b.elem) ∧
    ((∀ fuel, Sound storeThenReturn fuel) ∧
    ((∀ f sig, storeThenReturn.definition? 0 = some (f, sig) → args.length ≠ sig.params.length) →
      (∃ e, (call storeThenReturn 0 args maxCallDepth).result = .error e) ∧
        (call storeThenReturn 0 args maxCallDepth).buffers = Arg.buffers args) ∧
    ∀ f sig values m₀ regions r m,
      storeThenReturn.definition? 0 = some (f, sig) → args.length = sig.params.length →
      bindArgs args sig.params { maxDepth := maxCallDepth } = (values, m₀, regions) →
      ((callFunction storeThenReturn stepBudget 0 values Span.unknown).run
        { scope := { globals := storeThenReturn.globals }, slots := #[], ret := .void }).run.run
          m₀ = (r, m) →
      List.Forall₂ (fun b r => m₀.regions[r]? = some b.data) (Arg.buffers args) regions ∧
      m₀.shape <+: m.shape ∧
      (∀ e, r = .error e → (call storeThenReturn 0 args maxCallDepth).result = .error e ∧
        (call storeThenReturn 0 args maxCallDepth).buffers = Arg.buffers args) ∧
      ∀ v fr, r = .ok (v, fr) → v.Typed m.shape ∧
        (call storeThenReturn 0 args maxCallDepth).result = hostResult v ∧
        List.Forall₂ (fun (br : HostBuffer × Nat) b' => m.regions[br.2]? = some b'.data ∧
          b'.elem = br.1.elem ∧ b'.size = br.1.size ∧ ∀ x ∈ b'.data, x.ty = br.1.elem)
          ((Arg.buffers args).zip regions) (call storeThenReturn 0 args maxCallDepth).buffers) := by
  intro args
  have hmatch : ∀ f sig, storeThenReturn.definition? 0 = some (f, sig) →
      ∀ ap ∈ args.zip sig.params, ap.1.matches ap.2 = true := by
    intro f sig h
    simp only [storeThenReturn, if_pos, Option.some.injEq, Prod.mk.injEq] at h
    obtain ⟨-, rfl⟩ := h
    decide
  have htyped : ∀ b ∈ Arg.buffers args, ∀ x ∈ b.data, x.ty = b.elem := by decide
  exact ⟨hmatch, htyped, call_buffers_follow_regions storeThenReturn 0 args maxCallDepth hmatch htyped⟩

/-- The function stores into its buffer and then returns a pointer, which the host cannot take:
the call fails, yet the buffer holds the stored 5, not the 1 the host passed. -/
theorem rejected_result_after_stores :
    (call storeThenReturn 0 [.buffer ⟨.int32, #[.i32 1]⟩] maxCallDepth).result =
        .error (.arguments "a Array(Int32) result cannot be returned to the host") ∧
      (call storeThenReturn 0 [.buffer ⟨.int32, #[.i32 1]⟩] maxCallDepth).buffers =
        [⟨.int32, #[.i32 5]⟩] :=
  ⟨by rfl, by decide⟩

end Interpreter

end TypedJit

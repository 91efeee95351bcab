import Mathlib.Tactic.Ring
import TypedJit.Host.Check
import TypedJit.Host.Marshal
import TypedJit.Proofs.Except

/-!
# Round trips across the native boundary
-/

/-- Cutting a word's signed value to its width gives the word's bit pattern back. -/
theorem BitVec.ofNat_toInt_emod {w : Nat} (x : BitVec w) :
    BitVec.ofNat w ((x.toInt % Int.pow 2 w).toNat) = x := by
  have h : (x.toInt % Int.pow 2 w).toNat = x.toNat := by
    conv_rhs => rw [← BitVec.ofInt_toInt (x := x), BitVec.toNat_ofInt]
    simp only [Int.natCast_pow, Int.cast_ofNat_Int]
    rfl
  apply BitVec.eq_of_toNat_eq
  rw [BitVec.toNat_ofNat, h, Nat.mod_eq_of_lt x.isLt]

namespace TypedJit

/-- The bytes of every type but Bool hold exactly its bits. -/
theorem ScalarType.pow_byteSize (s : ScalarType) (hs : s ≠ .bool) :
    Nat.pow 256 s.byteSize = Nat.pow 2 s.bits := by
  cases s with
  | bool => exact absurd rfl hs
  | _ => rfl

namespace Scalar

theorem bytesValue_append_singleton (l : List UInt8) (b : UInt8) :
    bytesValue (l ++ [b]) = bytesValue l + Nat.pow 256 l.length * b.toNat := by
  induction l with
  | nil => simp [bytesValue]
  | cons x l ih =>
    simp only [List.cons_append, bytesValue, ih, List.length_cons, Nat.pow_eq, pow_succ]
    ring

/-- The first `k` base-256 digits of `n` read back give `n` cut to `k` bytes. -/
theorem bytesValue_digits (n k : Nat) :
    bytesValue ((List.range k).map fun i => UInt8.ofNat (n / Nat.pow 256 i)) =
      n % Nat.pow 256 k := by
  induction k with
  | zero => simp [bytesValue, Nat.mod_one]
  | succ k ih =>
    rw [List.range_succ, List.map_append, List.map_singleton, bytesValue_append_singleton, ih,
      List.length_map, List.length_range, UInt8.toNat_ofNat']
    simp only [Nat.pow_eq]
    exact Nat.mod_pow_succ.symm

@[simp] theorem length_toBytes (x : Scalar) : x.toBytes.length = x.ty.byteSize := by
  simp [toBytes]

theorem toNat_emod_two_pow_lt (i : Int) (w : Nat) : (i % Int.pow 2 w).toNat < Nat.pow 2 w := by
  have hpow : Int.pow 2 w = ((Nat.pow 2 w : Nat) : Int) := by
    simp only [Nat.pow_eq, Int.natCast_pow]
    rfl
  have hlt := Int.emod_lt_of_pos i (b := Int.pow 2 w) (by rw [hpow]; exact_mod_cast Nat.two_pow_pos w)
  have hnn := Int.emod_nonneg i (b := Int.pow 2 w) (by rw [hpow]; exact_mod_cast (Nat.two_pow_pos w).ne')
  omega

theorem toBits_lt (x : Scalar) : x.toBits < Nat.pow 256 x.ty.byteSize := by
  cases x with
  | bool b => cases b <;> decide
  | f32 w =>
    rw [ScalarType.pow_byteSize _ (by simp [ty])]
    exact w.toNat_lt
  | f64 w =>
    rw [ScalarType.pow_byteSize _ (by simp [ty])]
    exact w.toNat_lt
  | i8 v | i16 v | i32 v | i64 v =>
    rw [ScalarType.pow_byteSize _ (by simp [ty])]
    simp only [toBits, toInt]
    exact toNat_emod_two_pow_lt _ _

theorem bytesValue_toBytes (x : Scalar) : bytesValue x.toBytes = x.toBits := by
  rw [toBytes, bytesValue_digits]
  exact Nat.mod_eq_of_lt x.toBits_lt

/-- Every scalar is the scalar of its type with its own bit pattern. -/
theorem ofBits_toBits (x : Scalar) : ofBits x.ty x.toBits = x := by
  cases x with
  | bool b => cases b <;> rfl
  | i8 v =>
    exact congrArg i8 <| Int8.toBitVec_inj.mp <| by
      simp only [Int8.toBitVec_ofNat', toBits, toInt, ← Int8.toInt_toBitVec]
      exact BitVec.ofNat_toInt_emod _
  | i16 v =>
    exact congrArg i16 <| Int16.toBitVec_inj.mp <| by
      simp only [Int16.toBitVec_ofNat', toBits, toInt, ← Int16.toInt_toBitVec]
      exact BitVec.ofNat_toInt_emod _
  | i32 v =>
    exact congrArg i32 <| Int32.toBitVec_inj.mp <| by
      simp only [Int32.toBitVec_ofNat', toBits, toInt, ← Int32.toInt_toBitVec]
      exact BitVec.ofNat_toInt_emod _
  | i64 v =>
    exact congrArg i64 <| Int64.toBitVec_inj.mp <| by
      simp only [Int64.toBitVec_ofNat', toBits, toInt, ← Int64.toInt_toBitVec]
      exact BitVec.ofNat_toInt_emod _
  | f32 w => exact congrArg f32 UInt32.ofNat_toNat
  | f64 w => exact congrArg f64 UInt64.ofNat_toNat

/-- Decoding reads the same bytes a load does, for every type but Bool, which it reads as any
nonzero byte. -/
theorem ofBytes?_eq_loadScalar {s : ScalarType} {bytes : List UInt8} (hs : s ≠ .bool)
    (h : s.byteSize ≤ bytes.length) : ofBytes? s bytes = some (loadScalar s bytes) := by
  cases s <;> simp_all [ofBytes?, loadScalar, ofBits]

end Scalar

/-- A load at a scalar's type reads back the scalar just stored. -/
theorem loadScalar_storeScalar (x : Scalar) (bytes : List UInt8) :
    loadScalar x.ty (storeScalar x bytes) = x := by
  rw [loadScalar, storeScalar, List.take_left' (Scalar.length_toBytes x),
    Scalar.bytesValue_toBytes, Scalar.ofBits_toBits]

theorem length_storeScalar (x : Scalar) (bytes : List UInt8) :
    x.ty.byteSize ≤ (storeScalar x bytes).length := by
  simp [storeScalar]

theorem Scalar.ofBytes?_toBytes (x : Scalar) : ofBytes? x.ty x.toBytes = some x := by
  have hload : loadScalar x.ty x.toBytes = x := by
    simpa [storeScalar] using loadScalar_storeScalar x []
  cases x with
  | bool b => cases b <;> rfl
  | _ => rw [ofBytes?_eq_loadScalar (by simp [ty]) (by simp), hload]

/-- An argument's slot is a zeroed slot with the argument stored in it. -/
theorem slotBytes_eq_storeScalar (x : Scalar) :
    x.slotBytes = storeScalar x (List.replicate 8 0) := by
  rw [Scalar.slotBytes, storeScalar, List.drop_replicate]

/-- The result decoded from the result slot is the result stored in it; a Bool comes back from
the byte it was widened to. -/
theorem decodeResult_resultSlot (x : Scalar) : decodeResult (.scalar x.ty) (resultSlot x) = some x := by
  cases x with
  | bool b => cases b <;> rfl
  | _ =>
    simp only [decodeResult, Ty.scalar?, Option.bind_some, resultSlot]
    rw [Scalar.ofBytes?_eq_loadScalar (by simp [Scalar.ty]) (length_storeScalar _ _),
      loadScalar_storeScalar]

namespace Slot

theorem param_value {s : ScalarType} (hs : s ≠ .bool) (bytes : List UInt8) :
    param (.scalar s) (.value bytes) = some (.scalar (loadScalar s bytes)) := by
  cases s with
  | bool => exact absurd rfl hs
  | _ => rfl

/-- A host argument that matches its parameter arrives as itself: a scalar is loaded back from
its slot, a Bool as its byte compared with zero, and a buffer as its address. -/
theorem param_ofArg {a : Arg} {p : Ty} (h : a.matches p = true) : (ofArg a).param p = some a := by
  cases a with
  | scalar x =>
    cases p with
    | scalar q =>
      have hq : x.ty = q := by simpa [Arg.matches] using h
      subst hq
      cases x with
      | bool b => cases b <;> rfl
      | _ =>
        rw [ofArg, slotBytes_eq_storeScalar, param_value (by simp [Scalar.ty]),
          loadScalar_storeScalar]
    | _ => simp [Arg.matches] at h
  | buffer b =>
    cases p with
    | unbounded e | slice e => rfl
    | _ => simp [Arg.matches] at h

end Slot

theorem passArgs_cons (p : Ty) (params : List Ty) (a : Arg) (args : List Arg) :
    passArgs (p :: params) (a :: args) =
      ((Slot.ofArg a).param p).bind fun x => (passArgs params args).map (x :: ·) := by
  simp only [passArgs, List.map_cons, List.zip_cons_cons, List.mapM_cons]
  cases (Slot.ofArg a).param p <;> simp [Option.map_eq_bind]

theorem passArgs_of_matches {params : List Ty} {args : List Arg}
    (hlen : args.length = params.length) (hm : ∀ ap ∈ args.zip params, ap.1.matches ap.2 = true) :
    passArgs params args = some args := by
  induction args generalizing params with
  | nil => rfl
  | cons a args ih =>
    cases params with
    | nil => simp at hlen
    | cons p params =>
      have hhead : a.matches p = true := hm (a, p) (by simp)
      have htail : passArgs params args = some args :=
        ih (by simpa using hlen) fun ap hap => hm ap (List.mem_cons_of_mem _ hap)
      rw [passArgs_cons, Slot.param_ofArg hhead, htail]
      rfl

/-- The host accepts an argument list exactly when it has one argument per parameter and each
argument matches its parameter. -/
theorem checkArgs_eq_ok {name : String} {sig : Signature} {args : List Arg} :
    checkArgs name sig args = .ok () ↔
      args.length = sig.params.length ∧ ∀ ap ∈ args.zip sig.params, ap.1.matches ap.2 = true := by
  unfold checkArgs
  by_cases hlen : args.length = sig.params.length
  · simp only [hlen, ne_eq, not_true_eq_false, if_false, true_and, bind_pure_unit]
    -- the loop visits the pairs with their positions; only the pairs decide whether it throws
    generalize args.zip sig.params = l
    generalize 0 = n
    induction l generalizing n with
    | nil => simp
    | cons ap l ih =>
      obtain ⟨a, p⟩ := ap
      simp only [List.zipIdx_cons, List.forIn_cons]
      by_cases h : a.matches p
      · simp only [h, Bool.not_true, Bool.false_eq_true, if_false, pure_bind]
        rw [ih (n + 1)]
        simp [h]
      · simp [h]
  · simp [hlen]

/-- Scalars cross the native boundary unchanged in both directions: a scalar's bytes decode to
the scalar at every width, every argument list the host accepts reaches the function as it was
given, and a result comes back from its result slot as it was returned. -/
theorem marshalling_round_trips :
    (∀ x : Scalar, Scalar.ofBytes? x.ty x.toBytes = some x) ∧
    (∀ name sig args, checkArgs name sig args = .ok () → passArgs sig.params args = some args) ∧
    (∀ x : Scalar, decodeResult (.scalar x.ty) (resultSlot x) = some x) := by
  refine ⟨Scalar.ofBytes?_toBytes, fun name sig args h => ?_, decodeResult_resultSlot⟩
  obtain ⟨hlen, hm⟩ := checkArgs_eq_ok.mp h
  exact passArgs_of_matches hlen hm

/-- A Bool and an array of integers passed together both arrive as given. -/
theorem bool_and_buffer_pass_unchanged :
    checkArgs "f" ⟨.void, [.scalar .bool, .unbounded .int32]⟩
        [.scalar (.bool true), .buffer ⟨.int32, #[.i32 7]⟩] = .ok () ∧
      passArgs [.scalar .bool, .unbounded .int32]
        [.scalar (.bool true), .buffer ⟨.int32, #[.i32 7]⟩] =
        some [.scalar (.bool true), .buffer ⟨.int32, #[.i32 7]⟩] :=
  ⟨rfl, marshalling_round_trips.2.1 "f" ⟨.void, [.scalar .bool, .unbounded .int32]⟩ _ rfl⟩

end TypedJit

import TypedJit.Host.Buffer

/-!
The host side of the native calling convention.
-/

namespace TypedJit

/-- The symbol of the entry point that calls `symbol` with marshalled arguments. -/
def trampolineSymbol (symbol : String) : String := symbol ++ ".entry"

/-- One argument slot of a native call. -/
inductive Slot where
  /-- Eight bytes holding a scalar, least significant first. -/
  | value (bytes : List UInt8)
  /-- The address of a host buffer's first element. -/
  | address (buffer : HostBuffer)
  deriving DecidableEq, Repr

/-- A scalar's bytes padded with zeros to a whole slot. -/
def Scalar.slotBytes (s : Scalar) : List UInt8 :=
  s.toBytes ++ List.replicate (8 - s.toBytes.length) 0

def Slot.ofArg : Arg → Slot
  | .scalar s => .value s.slotBytes
  | .buffer b => .address b

/-- Decode a result slot as a value of type `ret`. -/
def decodeResult (ret : Ty) (bytes : List UInt8) : Option Scalar :=
  ret.scalar?.bind (Scalar.ofBytes? · bytes)

/-- The scalar of type `s` whose bit pattern is `n` cut to the type's width; a Bool is the lowest
bit. -/
def Scalar.ofBits (s : ScalarType) (n : Nat) : Scalar :=
  match s with
  | .bool => .bool (n % 2 == 1)
  | .int8 => .i8 (Int8.ofNat n)
  | .int16 => .i16 (Int16.ofNat n)
  | .int32 => .i32 (Int32.ofNat n)
  | .int64 => .i64 (Int64.ofNat n)
  | .float => .f32 (UInt32.ofNat n)
  | .double => .f64 (UInt64.ofNat n)

/-- A load of type `s` from memory that holds `bytes`: the first `byteSize` bytes, least
significant first, are the value's bit pattern. -/
def loadScalar (s : ScalarType) (bytes : List UInt8) : Scalar :=
  Scalar.ofBits s (Scalar.bytesValue (bytes.take s.byteSize))

/-- A store of `x` into memory that holds `bytes`: the value's bytes replace the first ones. -/
def storeScalar (x : Scalar) (bytes : List UInt8) : List UInt8 :=
  x.toBytes ++ bytes.drop x.toBytes.length

/-- What the trampoline passes for a parameter of type `p`, loaded from its argument slot: a Bool
travels as a byte and arrives as that byte compared with zero, another scalar is loaded at its own
type, and an array or slice arrives as the address the slot holds. -/
def Slot.param : Ty → Slot → Option Arg
  | .scalar .bool, .value bytes => some (.scalar (.bool ((loadScalar .int8 bytes).toInt != 0)))
  | .scalar s, .value bytes => some (.scalar (loadScalar s bytes))
  | .unbounded _, .address b | .slice _, .address b => some (.buffer b)
  | _, _ => none

/-- The arguments the trampoline passes for parameters of types `params`, each loaded from the
slot of its host argument; nothing when a slot does not fit its parameter. -/
def passArgs (params : List Ty) (args : List Arg) : Option (List Arg) :=
  ((args.map Slot.ofArg).zip params).mapM fun (slot, p) => slot.param p

/-- The result slot, zeroed by the host, once the trampoline has stored the result `x` in it: a
Bool is first widened to a byte. -/
def resultSlot (x : Scalar) : List UInt8 :=
  let widened := match x with
    | .bool b => Scalar.i8 (if b then 1 else 0)
    | other => other
  storeScalar widened (List.replicate 8 0)

/-- Why a slot's contents cannot be read as eight bytes. -/
inductive SlotError where
  /-- Reading through a slot needs a slot that holds an address. -/
  | notAnAddress
  /-- The buffer behind the address is shorter than eight bytes. -/
  | shortBuffer
  /-- An address slot read without following it. -/
  | holdsAddress
  deriving DecidableEq, Repr

/-- The eight bytes read from a slot: its own bytes, or with `deref` the first eight bytes of
the buffer whose address it holds. -/
def Slot.read (deref : Bool) : Slot → Except SlotError (List UInt8)
  | .value bytes => if deref then .error .notAnAddress else .ok bytes
  | .address b =>
    if !deref then .error .holdsAddress
    else if b.bytes.length < 8 then .error .shortBuffer
    else .ok (b.bytes.take 8)

theorem slotBytes_length (s : Scalar) : s.slotBytes.length = 8 := by
  have h : s.toBytes.length ≤ 8 := by
    cases s <;> simp [Scalar.toBytes, Scalar.ty, ScalarType.byteSize, ScalarType.bits]
  simp [Scalar.slotBytes]
  omega

end TypedJit

import TypedJit.Machine.Semantics
import TypedJit.Host.Marshal

/-!
Running generated code.
-/

namespace TypedJit.Machine

open Ieee

inductive Fault where
  | undefined (what : String)
  | unresolved (symbol : String)
  | outOfFuel
  deriving DecidableEq, Repr, Inhabited

def Fault.message : Fault → String
  | .undefined what => s!"undefined behaviour: {what}"
  | .unresolved s => s!"Program used external function '{s}' which could not be resolved!"
  | .outOfFuel => "the run exceeded its step budget"

/-- One activation of a function. -/
structure Frame where
  code : Code
  regs : Array Word
  block : Nat := 0
  pc : Nat := 0
  /-- The block control came from, which selects a phi's incoming value. -/
  pred : Option Nat := none
  /-- The register of the calling frame that receives the result. -/
  dst : Option Nat := none

def Frame.value (f : Frame) : Operand → Word
  | .reg r => f.regs[r]?.getD .poison
  | .const w => w

/-- A frame entering `code` with its parameters in the first registers. -/
def Frame.enter (code : Code) (args : List Word) (dst : Option Nat) : Frame where
  code
  regs := args.toArray ++ Array.replicate (code.registers - args.length) .poison
  dst

structure State where
  /-- The call stack, innermost frame first. -/
  frames : List Frame
  memory : Array (Array Word) := #[]
  /-- Bytes written to standard output. -/
  output : Array UInt8 := #[]

inductive Outcome where
  | running (s : State)
  /-- The outermost frame returned. -/
  | halted (result : Option Word) (s : State)

/-- The cells a stored word occupies: an array of zeros fills one cell per element. -/
def Word.cells : Word → List Word
  | .zeros e n => List.replicate n (.scalar (Scalar.zero e))
  | w => [w]

/-- Write `cells` into `obj` from position `i`, when they fit. -/
def writeCells (obj : Array Word) (i : Nat) (cells : List Word) : Option (Array Word) :=
  if i + cells.length ≤ obj.size then
    some (cells.zipIdx.foldl (fun a (c, k) => a.setIfInBounds (i + k) c) obj)
  else none

/-- The number of cells of stack storage of type `t`. -/
def Mty.cellCount : Mty → Nat
  | .array _ n => n
  | _ => 1

/-- The code bound under each symbol. -/
abbrev Bindings := String → Option Code

/-- A C library routine: `putchar`, or a math routine over Float (named with an `f` suffix) or
Double. Returns the result and the byte written, if any. -/
def libraryCall (symbol : String) (args : List Word) : Except Fault (Word × Option UInt8) :=
  let singles := args.mapM fun | .scalar (.f32 w) => some w | _ => none
  let doubles := args.mapM fun | .scalar (.f64 w) => some w | _ => none
  if args.contains .poison then .error (.undefined s!"`{symbol}` called with an undefined argument")
  else match symbol, args with
  | "putchar", [.scalar c] =>
    let b := UInt8.ofNat c.toBits
    .ok (.scalar (.i32 (Int32.ofNat b.toNat)), some b)
  | _, _ =>
    let single := if symbol.endsWith "f" then
        singles.bind (Single.routine (String.ofList symbol.toList.dropLast))
      else none
    match single, doubles.bind (Double.routine symbol) with
    | some r, _ => .ok (.scalar (.f32 r), none)
    | none, some r => .ok (.scalar (.f64 r), none)
    | none, none => .error (.unresolved symbol)

/-- Execute one instruction of the innermost frame. -/
def step (bound : Bindings) : State → Except Fault Outcome
  | { frames := [], .. } => .error (.undefined "no frame to run")
  | { frames := f :: callers, memory, output } =>
    let undefined {α : Type} (what : String) : Except Fault α := .error (.undefined what)
    let advance (f : Frame) : Outcome :=
      .running { frames := { f with pc := f.pc + 1 } :: callers, memory, output }
    let put (r : Nat) (w : Word) : Except Fault Outcome :=
      .ok (advance { f with regs := f.regs.setIfInBounds r w })
    let jump (target : Nat) : Outcome :=
      .running { frames := { f with block := target, pc := 0, pred := some f.block } :: callers,
                 memory, output }
    match (f.code.blocks[f.block]?).bind (·.insts[f.pc]?) with
    | none => undefined "control left its block"
    | some inst =>
      match inst with
      | .alloca r t =>
        let obj := Array.replicate t.cellCount Word.poison
        .ok (.running { frames := { f with regs := f.regs.setIfInBounds r (.address memory.size 0),
                                           pc := f.pc + 1 } :: callers,
                        memory := memory.push obj, output })
      | .store v p =>
        match f.value p with
        | .address o i =>
          match (memory[o]?).bind (writeCells · i (f.value v).cells) with
          | some obj => .ok (.running { frames := { f with pc := f.pc + 1 } :: callers,
                                        memory := memory.setIfInBounds o obj, output })
          | none => undefined "store outside its object"
        | _ => undefined "store through a non-address"
      | .load r _ p =>
        match f.value p with
        | .address o i =>
          match (memory[o]?).bind (·[i]?) with
          | some w => put r w
          | none => undefined "load outside its object"
        | _ => undefined "load through a non-address"
      | .binary r op a b =>
        if divisionTraps op (f.value a) (f.value b) then undefined s!"{op.mnemonic} traps"
        else put r (binaryWord op (f.value a) (f.value b))
      | .fneg r a => put r (negWord (f.value a))
      | .icmp r p a b => put r (icmpWord p (f.value a) (f.value b))
      | .fcmp r p a b => put r (fcmpWord p (f.value a) (f.value b))
      | .cast r op a t => put r (castWord op (f.value a) t)
      | .elementAddress r base index =>
        match f.value base, f.value index with
        | .address o i, .scalar k =>
          let j := (i : Int) + k.toInt
          put r (if j < 0 then .poison else .address o j.toNat)
        | _, _ => put r .poison
      | .decay r s => put r (f.value s)
      | .extract r v i => put r (extractWord (f.value v) (f.value i))
      | .insert r v x i => put r (insertWord (f.value v) (f.value x) (f.value i))
      | .call dst symbol _ args =>
        let xs := args.map f.value
        match bound symbol with
        | some code =>
          .ok (.running { frames := Frame.enter code xs dst :: { f with pc := f.pc + 1 } :: callers,
                          memory, output })
        | none =>
          match libraryCall symbol xs with
          | .error e => .error e
          | .ok (w, byte?) =>
            let output := match byte? with
              | some b => output.push b
              | none => output
            let f := match dst with
              | some r => { f with regs := f.regs.setIfInBounds r w }
              | none => f
            .ok (.running { frames := { f with pc := f.pc + 1 } :: callers, memory, output })
      | .phi r incoming =>
        match incoming.find? (fun (_, b) => some b == f.pred) with
        | some (v, _) => put r (f.value v)
        | none => undefined "phi without an edge from the predecessor"
      | .br t => .ok (jump t)
      | .condBr c t e =>
        match f.value c with
        | .scalar (.bool b) => .ok (jump (if b then t else e))
        | _ => undefined "branch on an undefined condition"
      | .ret v =>
        let w := v.map f.value
        match callers with
          | [] =>
            if w = some .poison then undefined "return of an undefined value to the host"
            else .ok (.halted w { frames := [], memory, output })
          | c :: rest =>
            let c := match f.dst, w with
              | some r, some w => { c with regs := c.regs.setIfInBounds r w }
              | _, _ => c
            .ok (.running { frames := c :: rest, memory, output })
      | .unreachable => undefined "unreachable was reached"

/-- Step until the outermost frame returns, at most `fuel` steps. -/
def run (bound : Bindings) : Nat → State → Except Fault (Option Word × State)
  | 0, _ => .error .outOfFuel
  | fuel + 1, s =>
    match step bound s with
    | .error e => .error e
    | .ok (.halted w s) => .ok (w, s)
    | .ok (.running s) => run bound fuel s

/-- The step budget of one call from the host. -/
def runBudget : Nat := 1000000000

/-- What a call from the host leaves: its result, the host buffers as the call left them, and the
bytes it wrote. -/
structure HostCall where
  result : Option Scalar
  buffers : List HostBuffer
  output : List UInt8

/-- Call `code` from the host through its trampoline: the host packs each argument into a slot,
and the trampoline loads it back at its parameter's type; each buffer becomes a memory object
passed by its address. -/
def callFromHost (bound : Bindings) (code : Code) (sig : Signature) (args : List Arg) :
    Except Fault HostCall := do
  let some passed := passArgs sig.params args
    | .error (.undefined "an argument does not match its parameter")
  let place (acc : List Word × Array (Array Word)) (a : Arg) : List Word × Array (Array Word) :=
    match a with
    | .scalar s => (acc.1 ++ [.scalar s], acc.2)
    | .buffer b => (acc.1 ++ [.address acc.2.size 0], acc.2.push (b.data.map Word.scalar))
  let (words, memory) := passed.foldl place ([], #[])
  let (w, s) ← run bound runBudget { frames := [Frame.enter code words none], memory }
  let result ← match w with
    | none => pure (decodeResult sig.ret (List.replicate 8 0))
    | some (.scalar c) => pure (decodeResult sig.ret (resultSlot c))
    | some _ => .error (.undefined "a result that is not a scalar reached the host")
  let readBack (b : HostBuffer) (obj : Array Word) : Except Fault HostBuffer := do
    let data ← b.data.zipIdx.mapM fun (old, i) => match obj[i]? with
      | some (.scalar c) => pure c
      | some .poison => .error (.undefined "an undefined value reached a host buffer")
      | _ => pure old
    pure { b with data }
  let buffers ← (Arg.buffers args).zipIdx.mapM fun (b, i) => readBack b (s.memory[i]?.getD #[])
  pure { result, buffers, output := s.output.toList }

end TypedJit.Machine

/-!
Session statistics.

Every function compiled into one registry reports here: functions compiled and failed, blocks
created, instructions per opcode in verified functions, call sites, optimization runs and native
bindings, and the largest function so far (replaced only by a strictly larger one).
-/

namespace TypedJit

structure SessionStats where
  functionsCompiled : Nat := 0
  functionsFailed : Nat := 0
  blocksCreated : Nat := 0
  instructionsCompiled : Nat := 0
  /-- Count per opcode, in first-seen order. -/
  instructionCounts : List (String × Nat) := []
  largestSize : Nat := 0
  largestName : String := ""
  totalCalls : Nat := 0
  optimizationsRun : Nat := 0
  nativeBindings : Nat := 0
  deriving DecidableEq, Repr, Inhabited

namespace SessionStats

def recordCompiled (st : SessionStats) (name : String) (size : Nat) : SessionStats :=
  let st := { st with functionsCompiled := st.functionsCompiled + 1 }
  if st.largestSize < size then { st with largestSize := size, largestName := name } else st

def recordFailed (st : SessionStats) : SessionStats :=
  { st with functionsFailed := st.functionsFailed + 1 }

def recordBlock (st : SessionStats) : SessionStats :=
  { st with blocksCreated := st.blocksCreated + 1 }

def bump (counts : List (String × Nat)) (op : String) : List (String × Nat) :=
  if counts.any (·.1 == op) then counts.map fun (o, n) => if o == op then (o, n + 1) else (o, n)
  else counts ++ [(op, 1)]

def recordInstruction (st : SessionStats) (op : String) : SessionStats :=
  { st with instructionsCompiled := st.instructionsCompiled + 1,
            instructionCounts := bump st.instructionCounts op }

def recordCall (st : SessionStats) : SessionStats :=
  { st with totalCalls := st.totalCalls + 1 }

def recordOptimization (st : SessionStats) : SessionStats :=
  { st with optimizationsRun := st.optimizationsRun + 1 }

def recordBinding (st : SessionStats) : SessionStats :=
  { st with nativeBindings := st.nativeBindings + 1 }

/-- The counts ordered by opcode name. -/
def countsByName (st : SessionStats) : List (String × Nat) :=
  st.instructionCounts.mergeSort fun a b => decide (a.1 ≤ b.1)

/-- The counts by count, highest first, then by name. -/
def countsByFrequency (st : SessionStats) : List (String × Nat) :=
  st.instructionCounts.mergeSort fun a b => a.2 > b.2 || (a.2 == b.2 && decide (a.1 ≤ b.1))

def render (st : SessionStats) : String :=
  let lines :=
    ["Compilation Session Statistics:",
     s!"  Functions compiled: {st.functionsCompiled}",
     s!"  Functions failed: {st.functionsFailed}",
     s!"  Basic blocks created: {st.blocksCreated}",
     s!"  Instructions compiled: {st.instructionsCompiled}",
     s!"  Function calls compiled: {st.totalCalls}",
     s!"  Optimizations run: {st.optimizationsRun}",
     s!"  Native bindings: {st.nativeBindings}"] ++
    (if st.largestName.isEmpty then []
     else [s!"  Largest function: {st.largestName} ({st.largestSize} instructions)"]) ++
    (if st.instructionCounts.isEmpty then []
     else "  Instruction breakdown:" ::
       (st.countsByFrequency.take 10).map fun (op, n) => s!"    {op}: {n}")
  String.join (lines.map (· ++ "\n"))

end SessionStats

end TypedJit

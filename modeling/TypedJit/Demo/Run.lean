import TypedJit.Demo.Command
import TypedJit.Demo.Arg
import TypedJit.Registry.Lifecycle
import TypedJit.Text.Quoted

/-!
Running the demonstration tool.
-/

namespace TypedJit.Demo

/-- Register the math builtins and the demo's functions, each declared ahead and then compiled
(with `compileThem`) or only given its body. Returns the entry point's id. -/
def setup (d : Demo) (compileThem : Bool) : Jit Nat := do
  Jit.apply Registry.declareMath
  for f in d.functions do
    discard (Jit.update (·.forwardDeclare f.definition.name f.ret f.params))
  let ids ← d.functions.mapM fun f =>
    if compileThem then define f.definition f.ret f.params
    else Jit.update (·.register f.definition f.ret f.params)
  pure (ids.headD 0)

/-- The parameter types of the demo's entry point. -/
def Demo.entryParams (d : Demo) : List Ty := (d.functions.head?.map (·.params)).getD []

/-- Why a run of the tool fails after its command line was read. -/
inductive DemoError where
  | count (expected got : Nat)
  | arg (e : ArgError)
  | jit (e : JitError)
  /-- The reference interpreter's result differs from the compiled code's. -/
  | disagree (reference : Option Scalar)

/-- The entry point's arguments, one word per parameter. -/
def parseArgs (words : List String) (params : List Ty) : Except DemoError (List Scalar) :=
  if words.length ≠ params.length then .error (.count params.length words.length)
  else (words.zip params).mapM fun (w, t) => (parseArg w t).mapError .arg

/-! ## Descriptions of failures -/

def spanText (s : Span) : String := s!"Span \x7b line: {s.line}, col: {s.col} \x7d"

def compileErrorText (e : CompileError) : String :=
  s!"CompileError \x7b kind: {e.kind.name}, message: {Text.quoted e.message}, span: {spanText e.span} \x7d"

def runErrorText : RunError → String
  | .compile e => s!"Compile({compileErrorText e})"
  | .divisionByZero s => s!"DivisionByZero({spanText s})"
  | .outOfBounds i n s => s!"OutOfBounds \x7b index: {i}, len: {n}, span: {spanText s} \x7d"
  | .callDepth n => s!"CallDepth({n})"
  | .missingBody n => s!"MissingBody({Text.quoted n})"
  | .unknownBuiltin n => s!"UnknownBuiltin({Text.quoted n})"
  | .arguments m => s!"Arguments({Text.quoted m})"
  | .outOfFuel => "OutOfFuel"

def jitErrorText : JitError → String
  | .compile e => s!"Compile({compileErrorText e})"
  | .backend m => s!"Llvm({Text.quoted m})"
  | .notCompiled n => s!"NotCompiled({Text.quoted n})"
  | .unknownFunction n => s!"UnknownFunction({Text.quoted n})"
  | .argumentCount f e g => s!"ArgumentCount \x7b function: {Text.quoted f}, expected: {e}, got: {g} \x7d"
  | .argumentType f i e g =>
    s!"ArgumentType \x7b function: {Text.quoted f}, index: {i}, expected: {Text.quoted e}, got: {Text.quoted g} \x7d"
  | .notInvocable f r => s!"NotInvocable \x7b function: {Text.quoted f}, reason: {Text.quoted r} \x7d"
  | .unresolvedCallee f c => s!"UnresolvedCallee \x7b function: {Text.quoted f}, callee: {Text.quoted c} \x7d"
  | .alreadyFinalized n => s!"AlreadyFinalized({Text.quoted n})"
  | .unsupportedTarget w => s!"UnsupportedTarget({Text.quoted w})"
  | .objectFile m => s!"Object({Text.quoted m})"
  | .run e => s!"Interp({runErrorText e})"
  | .native f => s!"Native({Text.quoted f.message})"

/-- An optional result as the tool prints it inside a message: `Some(I32(5))` or `None`. -/
def optionText : Option Scalar → String
  | some s => s!"Some({s.tagged})"
  | none => "None"

/-- The description after `Error: `: messages of the tool itself are quoted. -/
def DemoError.describe : DemoError → String
  | .count e g => Text.quoted s!"expected {e} argument(s), got {g}"
  | .arg e => Text.quoted e.message
  | .jit e => jitErrorText e
  | .disagree r => Text.quoted s!"reference interpreter returned {optionText r}"

/-! ## A run -/

/-- What a run of the tool writes and its exit status. -/
structure Report where
  stdout : String := ""
  stderr : String := ""
  status : Nat := 0
  deriving DecidableEq, Repr

def Report.failed (out : String) (e : DemoError) : Report :=
  { stdout := out, stderr := s!"Error: {e.describe}\n", status := 1 }

/-- Whether two results are equal, reals compared as numbers. -/
def sameResult : Option Scalar → Option Scalar → Bool
  | some a, some b => a.sameValue b
  | none, none => true
  | _, _ => false

/-- Run a read command line. -/
def Invocation.run (inv : Invocation) : Report :=
  let start : Registry := { config := { optimizeOnDefine := inv.optimize } }
  match (setup inv.demo true).run.run start with
  | (.error e, _) => .failed "" (.jit e)
  | (.ok entry, r) =>
    match parseArgs inv.args inv.demo.entryParams with
    | .error e => .failed "" e
    | .ok values =>
      let args := values.map Arg.scalar
      let reference : Except JitError (Option (Option Scalar)) :=
        if inv.check then
          match (runReference entry args).run.run r with
          | (.ok o, _) => (some ·) <$> o.result.mapError .run
          | (.error e, _) => .error e
        else .ok none
      match reference with
      | .error e => .failed "" (.jit e)
      | .ok expected =>
        match (invoke entry args).run.run r with
        | (.error e, _) => .failed "" (.jit e)
        | (.ok call, r) =>
          let out := (call.result.map Scalar.tagged).getD "(void)" ++ "\n"
          let agreed : Except DemoError String := match expected with
            | some e =>
              if sameResult e call.result then .ok (out ++ "reference interpreter agrees\n")
              else .error (.disagree e)
            | none => .ok out
          match agreed with
          | .error e => .failed out e
          | .ok out =>
            let stats := if inv.emit.contains .stats then r.stats.render ++ "\n" else ""
            { stdout := out ++ stats }

/-- Run the tool on the words after its name. -/
def execute (words : List String) : Report :=
  match parseCommandLine words with
  | .error .help => { stdout := helpText }
  | .error e => { stderr := e.render, status := 2 }
  | .ok inv => inv.run

end TypedJit.Demo

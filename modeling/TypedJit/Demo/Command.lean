import TypedJit.Demo.Programs
import TypedJit.Text.Jaro

/-!
The command line of the demonstration tool.
-/

namespace TypedJit.Demo

/-- A listing the tool can print. -/
inductive Listing where
  | ir | asm | disasm | stats
  deriving DecidableEq, Repr, Inhabited

namespace Listing

def all : List Listing := [.ir, .asm, .disasm, .stats]

def name : Listing → String
  | .ir => "ir"
  | .asm => "asm"
  | .disasm => "disasm"
  | .stats => "stats"

def title : Listing → String
  | .ir => "Ir"
  | .asm => "Asm"
  | .disasm => "Disasm"
  | .stats => "Stats"

def ofName? (s : String) : Option Listing := all.find? (·.name == s)

end Listing

/-- A well-formed command line. -/
structure Invocation where
  demo : Demo
  args : List String := []
  optimize : Bool := false
  check : Bool := false
  emit : List Listing := []
  deriving Repr

/-- The parts of the command line, as usage lines show them. -/
inductive Part where
  | demo | args | optimize | check | emit | help
  deriving DecidableEq, Repr

namespace Part

def isOption : Part → Bool
  | .demo | .args => false
  | _ => true

def text : Part → String
  | .demo => "<DEMO>"
  | .args => "<ARGS>..."
  | .optimize => "--optimize"
  | .check => "--check"
  | .emit => "--emit <EMIT>"
  | .help => "--help"

def ofLong? : String → Option Part
  | "optimize" => some .optimize
  | "check" => some .check
  | "emit" => some .emit
  | "help" => some .help
  | _ => none

end Part

/-- The long options, in the order suggestions consider them. -/
def longOptions : List String := ["optimize", "check", "emit", "help"]

/-- The usage line of the whole command. -/
def fullUsage : String := "jitdemo [OPTIONS] <DEMO> [ARGS]..."

/-- The usage line that names the given parts: their options in order, then the demo and the
arguments, the arguments marked optional when not given. -/
def usageOf (given : List Part) : String :=
  let options := (given.filter Part.isOption).map Part.text
  let args := if given.contains .args then "<ARGS>..." else "[ARGS]..."
  String.intercalate " " (["jitdemo"] ++ options ++ ["<DEMO>", args])

/-- The command's parts as one group: the demo, the arguments and the options other than help. -/
def groupText : String := "<DEMO|ARGS|--optimize|--check|--emit <EMIT>>"

/-- The usage line once some part was given, naming the group and, before it, `part` when the
group does not hold it. -/
def groupUsage (part : Part) : String :=
  if part = .help then s!"jitdemo --help {groupText}" else s!"jitdemo {groupText}"

def helpText : String :=
  "Compile a demo dialect function and call it natively\n\n" ++
  "Usage: jitdemo [OPTIONS] <DEMO> [ARGS]...\n\n" ++
  "Arguments:\n" ++
  "  <DEMO>     Function to compile [possible values: add, sum-range, fact, fib, is-even, hypot]\n" ++
  "  [ARGS]...  Arguments, parsed according to the parameter types\n\n" ++
  "Options:\n" ++
  "      --optimize     Run the function pass pipeline before binding\n" ++
  "      --check        Also run the reference interpreter and compare\n" ++
  "      --emit <EMIT>  Listings to print [possible values: ir, asm, disasm, stats]\n" ++
  "  -h, --help         Print help\n"

/-- Why a command line is not read into an invocation. -/
inductive CliError where
  /-- The help text was asked for. -/
  | help
  /-- A value outside the possible ones for `arg`; an empty value is a missing one. -/
  | invalidValue (arg value : String) (possible : List String)
  | missingDemo (usage : String)
  | unknownArgument (arg : String) (similar : Option String) (usage : String)
  /-- A value attached to a switch. -/
  | unexpectedValue (arg value : String) (usage : String)
  /-- A switch given twice. -/
  | repeated (arg : String) (usage : String)
  deriving DecidableEq, Repr

namespace CliError

def kind : CliError → String
  | .help => "DisplayHelp"
  | .invalidValue .. => "InvalidValue"
  | .missingDemo _ => "MissingRequiredArgument"
  | .unknownArgument .. => "UnknownArgument"
  | .unexpectedValue .. => "TooManyValues"
  | .repeated .. => "ArgumentConflict"

def moreInformation : String := "\n\nFor more information, try '--help'.\n"

/-- The report of a fault, as the tool writes it. -/
def render : CliError → String
  | .help => helpText
  | .invalidValue arg value possible =>
    let head := if value.isEmpty then s!"a value is required for '{arg}' but none was supplied"
      else s!"invalid value '{value}' for '{arg}'"
    let listed := String.intercalate ", " possible
    let tip := match Text.closest value possible with
      | some s => s!"\n\n  tip: a similar value exists: '{s}'"
      | none => ""
    s!"error: {head}\n  [possible values: {listed}]" ++ tip ++ moreInformation
  | .missingDemo usage =>
    s!"error: the following required arguments were not provided:\n  <DEMO>\n\nUsage: {usage}" ++
      moreInformation
  | .unknownArgument arg similar usage =>
    let tip := match similar with
      | some s => s!"\n\n  tip: a similar argument exists: '{s}'"
      | none => s!"\n\n  tip: to pass '{arg}' as a value, use '-- {arg}'"
    s!"error: unexpected argument '{arg}' found" ++ tip ++ s!"\n\nUsage: {usage}" ++ moreInformation
  | .unexpectedValue arg value usage =>
    s!"error: unexpected value '{value}' for '{arg}' found; no more were expected\n\nUsage: {usage}" ++
      moreInformation
  | .repeated arg usage =>
    s!"error: the argument '{arg}' cannot be used multiple times\n\nUsage: {usage}" ++ moreInformation

end CliError

/-- Whether a word reads as an unsigned decimal: digits, at most one point (not first, before
any exponent) and at most one exponent mark `e` or `E` (neither first nor last). -/
def looksNumeric (s : String) : Bool :=
  let cs := s.toList
  let step (acc : Option (Bool × Option Nat)) (ci : Char × Nat) : Option (Bool × Option Nat) :=
    acc.bind fun (dot, mark) =>
      let (c, i) := ci
      if c.isDigit then some (dot, mark)
      else if c = '.' ∧ !dot ∧ mark.isNone ∧ i > 0 then some (true, mark)
      else if (c = 'e' ∨ c = 'E') ∧ mark.isNone ∧ i > 0 then some (dot, some i)
      else none
  match cs.zipIdx.foldl step (some (false, none)) with
  | none => false
  | some (_, some i) => i + 1 ≠ cs.length
  | some (_, none) => true

/-- Words read but not yet taken in: the demo's name, argument words, or `--emit` with the value
after it (none while the value is awaited). -/
inductive Pending where
  | demo (word : String)
  | args (words : List String)
  | emit (value : Option String)
  deriving DecidableEq, Repr

/-- The state of reading a command line. -/
structure Reading where
  demo : Option Demo := none
  /-- A word was taken as the demo's name; later positional words are arguments. -/
  demoSeen : Bool := false
  args : List String := []
  optimize : Bool := false
  check : Bool := false
  emit : List Listing := []
  /-- The parts taken in so far, in order of first appearance. -/
  given : List Part := []
  pending : Option Pending := none
  /-- `--` was met: every later word is an argument. -/
  literal : Bool := false
  deriving Repr

namespace Reading

def note (p : Reading) (part : Part) : Reading :=
  if p.given.contains part then p else { p with given := p.given ++ [part] }

def emitArg : String := "--emit <EMIT>"

/-- The fault of `--emit` without a value. -/
def missingEmit : CliError := .invalidValue emitArg "" (Listing.all.map Listing.name)

/-- Take in the pending words: the reading with their part given, and their fault, if any. -/
def settle (p : Reading) : Reading × Option CliError :=
  let q := { p with pending := none }
  match p.pending with
  | none => (p, none)
  | some (.emit none) => (q, some missingEmit)
  | some (.emit (some v)) =>
    let q := q.note .emit
    match Listing.ofName? v with
    | some l => ({ q with emit := q.emit ++ [l] }, none)
    | none => (q, some (.invalidValue emitArg v (Listing.all.map Listing.name)))
  | some (.demo w) =>
    let q := q.note .demo
    match Demo.ofName? w with
    | some d => ({ q with demo := some d }, none)
    | none => (q, some (.invalidValue "<DEMO>" w (Demo.all.map Demo.name)))
  | some (.args ws) => ({ q.note .args with args := q.args ++ ws }, none)

/-- Take in the pending words, stopping at their fault. -/
def settled (p : Reading) : Except CliError Reading :=
  match p.settle with
  | (q, none) => .ok q
  | (_, some e) => .error e

/-- A positional word: the demo's name, then the arguments, which gather until another part. -/
def positional (p : Reading) (w : String) : Except CliError Reading :=
  if !p.demoSeen then do
    let q ← p.settled
    pure { q with demoSeen := true, pending := some (.demo w) }
  else match p.pending with
    | some (.args ws) => .ok { p with pending := some (.args (ws ++ [w])) }
    | _ => do
      let q ← p.settled
      pure { q with pending := some (.args [w]) }

/-- A word that is a value: of `--emit` when it awaits one, else positional. -/
def value (p : Reading) (w : String) : Except CliError Reading :=
  if p.pending = some (.emit none) then .ok { p with pending := some (.emit (some w)) }
  else p.positional w

/-- Set a switch, which may be given once. -/
def switch (p : Reading) (part : Part) (isSet : Bool) (set : Reading → Reading) :
    Except CliError Reading := do
  let q ← p.settled
  if isSet then throw (.repeated part.text fullUsage) else pure (set (q.note part))

/-- `--name` or `--name=value`. -/
def long (p : Reading) (body : String) : Except CliError Reading :=
  let cs := body.toList
  let name := String.ofList (cs.takeWhile (· ≠ '='))
  let attached := match cs.dropWhile (· ≠ '=') with
    | [] => none
    | _ :: v => some (String.ofList v)
  match Part.ofLong? name, attached with
  | some .emit, v => do
    let q ← p.settled
    match v with
    | some v => settled { q with pending := some (.emit (some v)) }
    | none => pure { q with pending := some (.emit none) }
  | some part, some v =>
    .error (.unexpectedValue part.text v
      (if p.given.isEmpty then usageOf [part] else groupUsage part))
  | some part, none =>
    match part with
    | .optimize => p.switch .optimize p.optimize fun q => { q with optimize := true }
    | .check => p.switch .check p.check fun q => { q with check := true }
    | _ => do
      let _ ← p.settled
      throw .help
  | none, _ =>
    let q := p.settle.1
    let similar := Text.closest name longOptions
    let used := q.given ++ ((similar.bind Part.ofLong?).filter (!q.given.contains ·)).toList
    .error (.unknownArgument s!"--{name}" (similar.map ("--" ++ ·))
      (if used.isEmpty then fullUsage else usageOf used))

/-- A cluster of short options after a single `-`; only `-h` is known. -/
def short (p : Reading) (body : String) : Except CliError Reading :=
  match body.toList with
  | 'h' :: _ => do
    let _ ← p.settled
    throw .help
  | c :: _ => .error (.unknownArgument s!"-{c}" none fullUsage)
  | [] => p.value "-"

/-- Read one word. -/
def step (p : Reading) (w : String) : Except CliError Reading :=
  if p.literal then p.positional w
  else if w == "--" then .ok { p with literal := true }
  else if w.startsWith "--" then p.long (String.ofList (w.toList.drop 2))
  else if w.startsWith "-" && w != "-" then
    let rest := String.ofList (w.toList.drop 1)
    if p.demoSeen && looksNumeric rest then p.value w else p.short rest
  else p.value w

end Reading

/-- Read a command line, the words after the program's name. -/
def parseCommandLine (words : List String) : Except CliError Invocation := do
  let p ← words.foldlM Reading.step {}
  let p ← p.settled
  match p.demo with
  | none => throw (.missingDemo (usageOf (p.given ++ [.demo])))
  | some demo =>
    pure { demo, args := p.args, optimize := p.optimize, check := p.check, emit := p.emit }

end TypedJit.Demo

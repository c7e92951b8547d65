import FunctionForge.Command.Line

/-!
# Reading command lines

Arguments are read from left to right. An option without an attached value waits for the next
argument, and what waits is only checked when something else that is known comes up, or at the end.
So a later argument that nobody knows hides a wrong value before it.
-/

namespace FunctionForge.Command

/-- What arguments are read for: the program itself, or one of its subcommands. -/
inductive Scope where
  | program
  | generate
  | check
  | completions
  deriving DecidableEq, Repr

/-- An option that is there or not. -/
inductive Flag where
  | verbose
  | quiet
  | dryRun
  | help
  | version
  deriving DecidableEq, Repr

/-- An argument with a value. -/
inductive Slot where
  | config
  | output
  | arg
  | format
  | shell
  deriving DecidableEq, Repr

/-- What a name with dashes stands for. -/
inductive Switch where
  | flag (flag : Flag)
  | slot (slot : Slot)
  deriving DecidableEq, Repr

namespace Scope

def ofName? : String → Option Scope
  | "generate" => some generate
  | "check" => some check
  | "completions" => some completions
  | _ => none

def long? (scope : Scope) (name : String) : Option Switch :=
  match scope, name with
  | _, "verbose" => some (.flag .verbose)
  | _, "quiet" => some (.flag .quiet)
  | _, "help" => some (.flag .help)
  | program, "version" => some (.flag .version)
  | generate, "config" | check, "config" => some (.slot .config)
  | generate, "arg" | check, "arg" => some (.slot .arg)
  | generate, "output" => some (.slot .output)
  | generate, "dry-run" => some (.flag .dryRun)
  | check, "format" => some (.slot .format)
  | _, _ => none

def short? (scope : Scope) (letter : Char) : Option Switch :=
  match scope, letter with
  | _, 'v' => some (.flag .verbose)
  | _, 'q' => some (.flag .quiet)
  | _, 'h' => some (.flag .help)
  | program, 'V' => some (.flag .version)
  | generate, 'c' | check, 'c' => some (.slot .config)
  | generate, 'o' => some (.slot .output)
  | _, _ => none

end Scope

/-- What has been read in a scope. -/
structure Reading where
  scope : Scope
  verbose : Nat
  quiet : Bool
  dryRun : Bool
  config : Option Path
  output : Option Path
  args : List (String × String)
  format : Option Format
  shell : Option Shell
  /-- An argument whose value has not been checked, or not even been read. -/
  pending : Option (Slot × Option String)
  /-- Whether two dashes alone have been read. -/
  trailing : Bool
  deriving DecidableEq, Repr

namespace Reading

def start (scope : Scope) : Reading :=
  ⟨scope, 0, false, false, none, none, [], none, none, none, false⟩

def countBound : Nat := 255

def path (given : Option Path) (value : String) : Except Stop (Option Path) :=
  if given.isSome then .error .argumentConflict
  else if value = "" then .error .invalidValue
  else .ok (some ⟨value⟩)

/-- Checks the value of an argument and takes it. -/
def fill (r : Reading) (slot : Slot) (value : String) : Except Stop Reading :=
  match slot with
  | .config => do return { r with config := ← path r.config value }
  | .output => do return { r with output := ← path r.output value }
  | .arg =>
    match keyValue value with
    | .ok pair => .ok { r with args := r.args ++ [pair] }
    | .error _ => .error .valueValidation
  | .format =>
    if r.format.isSome then .error .argumentConflict
    else match Format.ofName? value with
      | some format => .ok { r with format }
      | none => .error .invalidValue
  | .shell =>
    match Shell.ofName? value with
    | some shell => .ok { r with shell }
    | none => .error .invalidValue

def resolve (r : Reading) : Except Stop Reading :=
  match r.pending with
  | none => .ok r
  | some (_, none) => .error .invalidValue
  | some (slot, some value) => { r with pending := none }.fill slot value

/-- Takes a flag. Asking for help or the version ends the reading. -/
def raise (r : Reading) (flag : Flag) : Except Stop Reading := do
  let r ← r.resolve
  match flag with
  | .verbose => return { r with verbose := min (r.verbose + 1) countBound }
  | .quiet => if r.quiet then throw .argumentConflict else return { r with quiet := true }
  | .dryRun => if r.dryRun then throw .argumentConflict else return { r with dryRun := true }
  | .help => throw .help
  | .version => throw .version

/-- Takes an option with its attached value, or lets it wait for one. -/
def openSlot (r : Reading) (slot : Slot) (attached : Option String) : Except Stop Reading := do
  let r ← r.resolve
  match attached with
  | some value => r.fill slot value
  | none => return { r with pending := some (slot, none) }

def readLong (r : Reading) (name : String) (attached : Option String) : Except Stop Reading :=
  match r.scope.long? name, attached with
  | none, _ => .error .unknownArgument
  | some (.slot slot), _ => r.openSlot slot attached
  | some (.flag flag), none => r.raise flag
  | some (.flag _), some _ => .error .tooManyValues

/-- The value that letters after an option state. -/
def attachedTo : List Char → Option String
  | [] => none
  | '=' :: value => some (String.ofList value)
  | value => some (String.ofList value)

/-- Reads letters after a dash. The first option takes the rest of them as its value. -/
def readShort (r : Reading) : List Char → Except Stop Reading
  | [] => .ok r
  | letter :: rest =>
    match r.scope.short? letter with
    | none => .error .unknownArgument
    | some (.slot slot) => r.openSlot slot (attachedTo rest)
    | some (.flag flag) => do readShort (← r.raise flag) rest

/-- Whether a word names a subcommand, the one for help included. -/
def isSubcommand (word : String) : Bool := word = "help" || (Scope.ofName? word).isSome

/-- What is wrong with an argument that no place is left for. -/
def stray (r : Reading) (argument : String) : Stop :=
  if r.scope = .program && !(r.trailing && isSubcommand argument) then .invalidSubcommand
  else .unknownArgument

/-- Whether the shell may still be given. -/
def wantsShell (r : Reading) : Bool :=
  r.scope = .completions && r.shell.isNone && !(r.pending matches some (.shell, _))

/-- Reads an argument without dashes that no option waits for. -/
def readPositional (r : Reading) (argument : String) : Except Stop Reading :=
  if r.wantsShell then do return { ← r.resolve with pending := some (.shell, some argument) }
  else .error (r.stray argument)

def readValue (r : Reading) (argument : String) : Except Stop Reading :=
  match r.pending with
  | some (slot, none) => .ok { r with pending := some (slot, some argument) }
  | _ => r.readPositional argument

/-- A long name without its dashes, split from its attached value. -/
def longParts (text : List Char) : String × Option String :=
  match splitAtEquals text with
  | some (name, value) => (String.ofList name, some (String.ofList value))
  | none => (String.ofList text, none)

/-- Reads an argument. -/
def read (r : Reading) (argument : String) : Except Stop Reading :=
  if r.trailing then r.readPositional argument
  else match argument.toList with
    | ['-', '-'] => .ok { r with trailing := true }
    | '-' :: '-' :: text => r.readLong (longParts text).1 (longParts text).2
    | '-' :: letter :: rest => r.readShort (letter :: rest)
    | _ => r.readValue argument

/-- Whether nothing that counts has been read. -/
def isUntouched (r : Reading) : Bool := r.verbose = 0 && !r.quiet

/-- Checks that a scope is not both quiet and verbose. -/
def checkConflict (r : Reading) : Except Stop Unit :=
  if r.quiet && r.verbose > 0 then .error .argumentConflict else .ok ()

/-- What a subcommand that has been read asks for. -/
def task (r : Reading) : Except Stop Task :=
  let config := r.config.getD standardConfig
  match r.scope, r.shell with
  | .program, _ => .error .missingSubcommand
  | .generate, _ => .ok (.generate config (r.output.getD standardOutput) r.args r.dryRun)
  | .check, _ => .ok (.check config r.args (r.format.getD .text))
  | .completions, some shell => .ok (.completions shell)
  | .completions, none => .error .missingRequiredArgument

/-- The command line when a subcommand has been read to its end. -/
def conclude (program sub : Reading) : Except Stop Line := do
  let sub ← sub.resolve
  sub.checkConflict
  let task ← sub.task
  program.checkConflict
  let verbose := if sub.verbose > 0 then sub.verbose else program.verbose
  return ⟨verbose, program.quiet || sub.quiet, task⟩

/-- What asking for help about names gives. -/
def helpAbout : List String → Stop
  | [] => .help
  | [name] => if isSubcommand name then .help else .invalidSubcommand
  | _ => .invalidSubcommand

/-- Reads the arguments of the program, up to a subcommand that reads the rest. -/
def readAll (r : Reading) : List String → Except Stop Line
  | [] => .error (if r.isUntouched then .missingEverything else .missingSubcommand)
  | argument :: rest =>
    match if r.trailing then none else Scope.ofName? argument with
    | some scope => do r.conclude (← rest.foldlM read (start scope))
    | none =>
      if !r.trailing && argument = "help" then .error (helpAbout rest)
      else do readAll (← r.read argument) rest

end Reading

/-- Reads a command line. -/
def read (arguments : List String) : Except Stop Line :=
  (Reading.start .program).readAll arguments

end FunctionForge.Command

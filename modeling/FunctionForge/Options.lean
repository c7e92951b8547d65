import FunctionForge.Diagnostic

/-!
# Options

Options come as keys with texts. A key counts once, where it stood first and with its last value.
Keys that are not options and texts that are not flags are reported as warnings.
-/

namespace FunctionForge

/-- Keys with their values in the order in which the keys came first. -/
abbrev OptionArgs := List (String × String)

namespace OptionArgs

/-- Sets the value of a key: in its place if it has one, else at the end. -/
def set (args : OptionArgs) (key value : String) : OptionArgs :=
  match args with
  | [] => [(key, value)]
  | (k, v) :: rest => if k = key then (k, value) :: rest else (k, v) :: set rest key value

/-- Setting a key changes the value of this key only. -/
theorem lookup_set (args : OptionArgs) (key value other : String) :
    (args.set key value).lookup other = if other = key then some value else args.lookup other := by
  induction args with
  | nil => grind [set]
  | cons pair rest ih =>
    rw [set]
    split <;> grind

def override (args : OptionArgs) (pairs : List (String × String)) : OptionArgs :=
  pairs.foldl (fun args (key, value) => args.set key value) args

def ofPairs (pairs : List (String × String)) : OptionArgs := override [] pairs

end OptionArgs

/-- The options of a pass. -/
structure Options where
  /-- Write every generic argument as a star. -/
  ignoreGenericArgs : Bool
  deriving DecidableEq, Repr

namespace Options

/-- The options of a pass that is given none. -/
def default : Options := ⟨false⟩

instance : Inhabited Options := ⟨default⟩

def ignoreGenericArgsKey : String := "ignoreGenericArgs"

/-- The truth value that a text states. -/
def flag? : String → Option Bool
  | "true" => some true
  | "false" => some false
  | _ => none

/-- The symbol that a warning about a key names. -/
def symbolOf (key : String) : String := "options." ++ key

/-- The warning about a text that is no flag. -/
def notFlagWarning (key value : String) : Diagnostic :=
  .warning ("option '" ++ key ++ "' expects \"true\" or \"false\", got \"" ++ value ++
    "\"; using false") (symbolOf key)

def unknownKeyWarning (key : String) : Diagnostic :=
  .warning ("unknown option '" ++ key ++ "'") (symbolOf key)

def apply (options : Options) (key value : String) : Options × DiagnosticLog :=
  if key = ignoreGenericArgsKey then
    match flag? value with
    | some flag => ({ options with ignoreGenericArgs := flag }, [])
    | none => (options, [notFlagWarning key value])
  else (options, [unknownKeyWarning key])

/-- The options that a table of keys states, with the warnings in the order of the keys. -/
def ofArgs (args : OptionArgs) : Options × DiagnosticLog :=
  args.foldl (fun (options, log) (key, value) =>
    let (options, warnings) := options.apply key value
    (options, log ++ warnings)) (default, [])

end Options

end FunctionForge

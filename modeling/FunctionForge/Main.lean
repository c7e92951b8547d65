import FunctionForge.Command.Run

/-! # The program -/

namespace FunctionForge

/-- The number of a system error. Some requests give it with its sign turned, in 32 bits. -/
def systemNumber (code : UInt32) : Nat := min code.toNat (UInt32.size - code.toNat)

/-- The failure with a number, which is described in case it has no name of its own. -/
def DiskError.ofNumber (number : Nat) (details : String) : DiskError :=
  match number with
  | 2 => .notFound
  | 17 => .alreadyExists
  | 20 => .notDirectory
  | 21 => .isDirectory
  | 36 => .nameTooLong
  | _ => .other (details ++ " (os error " ++ toString number ++ ")")

/-- The failure that an input or output error is. -/
def DiskError.ofFailure : IO.Error → DiskError
  | .alreadyExists _ code details | .invalidArgument _ code details
  | .permissionDenied _ code details | .resourceExhausted _ code details
  | .inappropriateType _ code details | .noSuchThing _ code details
  | .noFileOrDirectory _ code details | .interrupted _ code details
  | .otherError code details | .resourceBusy code details | .resourceVanished code details
  | .unsupportedOperation code details | .hardwareFault code details
  | .unsatisfiedConstraints code details | .illegalOperation code details
  | .protocolError code details | .timeExpired code details =>
    .ofNumber (systemNumber code) details
  | .unexpectedEof => .other "unexpected end of file"
  | .userError text => .other text

/-- Does something with the machine and turns its failure into a value. -/
def attempt {α : Type} (act : IO α) : IO (Except DiskError α) := do
  try return .ok (← act)
  catch e => return .error (.ofFailure e)

/-- The disk of the machine. -/
def machineDisk : Disk IO where
  read path := do
    if path.text.contains '\x00' then return .error .zeroInName
    match ← attempt (IO.FS.readBinFile path.text) with
    | .ok content =>
      return match String.fromUTF8? content with
        | some text => .ok text
        | none => .error .invalidText
    | .error e => return .error e
  isDirectory path := (System.mkFilePath [path.text]).isDir
  makeDirectory path := attempt (IO.FS.createDir path.text)
  create path := attempt (IO.FS.writeFile path.text "")
  append path text := attempt do
    let file ← IO.FS.Handle.mk path.text .append
    file.putStr text
    file.flush
  remove path := attempt (IO.FS.removeFile path.text)

/-- Runs a command line on the machine, prints the answer, and gives the exit code. -/
def runOnMachine (arguments : List String) : IO UInt32 := do
  let answer ← Command.run machineDisk arguments
  IO.print answer.printed.output
  IO.eprint answer.printed.errors
  return answer.exit.toUInt32

end FunctionForge

/-- Runs the command line that the program was started with. -/
def main (arguments : List String) : IO UInt32 := FunctionForge.runOnMachine arguments

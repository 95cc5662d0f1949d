import WorkflowLint.CommandLine.Run

/-!
# The command line

Reads what the arguments name and writes what `CommandLine.run` makes of it.
-/

set_option autoImplicit false

namespace WorkflowLint.CommandLine

/-- The reason behind a failed read. -/
def inputError : IO.Error → InputError
  | .noFileOrDirectory .. => .missing
  | .inappropriateType _ _ details =>
    if details.toLower = "not a directory" then .notDirectory else .directory
  | .permissionDenied .. => .denied
  | .invalidArgument _ _ "name too long" => .nameTooLong
  | e => .system (toString e)

/-- The text of a file. -/
def readFile (path : String) : IO (Except InputError String) := do
  try
    return decode (← IO.FS.readBinFile path)
  catch e =>
    return .error (inputError e)

/-- All of the standard input. -/
def readStdin : IO (Except InputError String) := do
  try
    return decode (← (← IO.getStdin).readBinToEnd)
  catch e =>
    return .error (inputError e)

/-- Reads the files that the options name, and the standard input if no file is named. -/
def readInputs (o : Options) : IO Inputs := do
  let paths := o.config.toList ++ o.file.toList
  let texts ← paths.mapM fun path => do return (path, ← readFile path)
  let named := o.file.any fun path => path != "-"
  let stdin ← if named then pure (.ok "") else readStdin
  return ⟨fun path => (texts.lookup path).getD (.error .missing), stdin⟩

end WorkflowLint.CommandLine

def main (arguments : List String) : IO UInt32 := do
  let inputs ← match WorkflowLint.CommandLine.request arguments with
    | .run o => WorkflowLint.CommandLine.readInputs o
    | _ => pure ⟨fun _ => .error .missing, .ok ""⟩
  let outcome := WorkflowLint.CommandLine.run arguments inputs
  IO.print outcome.stdout
  IO.eprint outcome.stderr
  return outcome.exitCode.toUInt32

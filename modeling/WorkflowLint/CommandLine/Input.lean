/-!
# The inputs of a run

A run reads files by their paths and reads the standard input. Either gives a text or the reason why
there is none.
-/

set_option autoImplicit false

namespace WorkflowLint.CommandLine

/-- Why an input cannot be read. -/
inductive InputError where
  | missing
  | directory
  | notDirectory
  | nameTooLong
  | denied
  | notText
  /-- Any other reason, in the words of the system. -/
  | system (text : String)

def InputError.message : InputError → String
  | .missing => "No such file or directory (os error 2)"
  | .directory => "Is a directory (os error 21)"
  | .notDirectory => "Not a directory (os error 20)"
  | .nameTooLong => "File name too long (os error 36)"
  | .denied => "Permission denied (os error 13)"
  | .notText => "stream did not contain valid UTF-8"
  | .system text => text

/-- The text that some bytes encode. -/
def decode (bytes : ByteArray) : Except InputError String :=
  match String.fromUTF8? bytes with
  | some text => .ok text
  | none => .error .notText

/-- What can be read. -/
structure Inputs where
  file : String → Except InputError String
  stdin : Except InputError String

end WorkflowLint.CommandLine

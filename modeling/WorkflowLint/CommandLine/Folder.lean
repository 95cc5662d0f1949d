import WorkflowLint.CommandLine.Input

/-!
# Files in a folder

A path is walked part by part from the folder of the run. Each part needs a directory to stand in,
so a part behind a file fails even if it is `.` or empty, and a part behind a name that is not there
fails at that name, whatever follows. Nothing is known of what lies around the folder, except that
`..` leads there and that it holds no file.
-/

set_option autoImplicit false

namespace WorkflowLint.CommandLine

/-- The files below a folder by their paths, whose parts are divided by one `/` each. -/
structure Folder where
  files : List (String × String)

/-- Where a walk has come to. -/
inductive Place where
  /-- A directory around the folder. -/
  | around
  /-- The folder, or a directory below it. -/
  | directory (parts : List String)
  | file (text : String)

/-- The most bytes that a name may have. -/
def longestName : Nat := 255

/-- The most bytes that a path may have. -/
def longestPath : Nat := 4095

namespace Folder

/-- What a path below the folder names. -/
def find (folder : Folder) (parts : List String) : Except InputError Place :=
  let path := "/".intercalate parts
  match folder.files.lookup path with
  | some text => .ok (.file text)
  | none =>
    if folder.files.any fun f => f.1.startsWith (path ++ "/") then .ok (.directory parts)
    else .error .missing

/-- One part of a walk. -/
def step (folder : Folder) (place : Place) (part : String) : Except InputError Place :=
  match place with
  | .file _ => .error .notDirectory
  | .around =>
    if part = "" ∨ part = "." ∨ part = ".." then .ok .around
    else if longestName < part.utf8ByteSize then .error .nameTooLong
    else .error .missing
  | .directory parts =>
    if part = "" ∨ part = "." then .ok place
    else if part = ".." then .ok (if parts = [] then .around else .directory parts.dropLast)
    else if longestName < part.utf8ByteSize then .error .nameTooLong
    else folder.find (parts ++ [part])

/-- Where a path leads: a path that starts with `/` starts around the folder. -/
def walk (folder : Folder) (path : String) : Except InputError Place :=
  if path = "" then .error .missing
  else if longestPath < path.utf8ByteSize then .error .nameTooLong
  else ((path.toList.splitOn '/').map String.ofList).foldlM folder.step
    (if path.startsWith "/" then .around else .directory [])

/-- The text of the file to which a path leads. -/
def read (folder : Folder) (path : String) : Except InputError String :=
  match folder.walk path with
  | .error e => .error e
  | .ok (.file text) => .ok text
  | .ok _ => .error .directory

end Folder

end WorkflowLint.CommandLine

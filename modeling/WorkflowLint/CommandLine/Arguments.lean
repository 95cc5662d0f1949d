/-!
# Arguments

What a list of arguments asks for. Arguments are taken in order and the first that decides anything
decides: a request for help or for the version is met at once, unless something before it was wrong.
Each option may be given once and takes one value, either behind an equals sign or as the next
argument, which must not look like an option itself. Behind `--` everything is a file.
-/

set_option autoImplicit false

namespace WorkflowLint.CommandLine

/-- How the report is written. -/
inductive Format where
  | text
  | json
  | html
  deriving DecidableEq, Inhabited

def Format.ofName? (name : String) : Option Format :=
  if name = "text" then some .text
  else if name = "json" then some .json
  else if name = "html" then some .html
  else none

/-- The arguments so far. -/
structure Options where
  /-- The workflow file. -/
  file : Option String
  format : Option Format
  /-- The configuration file. -/
  config : Option String
  deriving DecidableEq, Inhabited

/-- What the arguments ask for. -/
inductive Request where
  | run (options : Options)
  | help
  | version
  | misuse
  deriving DecidableEq

namespace Options

def none : Options := ⟨.none, .none, .none⟩

/-- Sets the format, which must be a known one and not be set yet. -/
def withFormat? (o : Options) (name : String) : Option Options :=
  if o.format.isSome then .none
  else (Format.ofName? name).map fun format => { o with format := some format }

/-- Sets the configuration file, whose name must not be empty. -/
def withConfig? (o : Options) (path : String) : Option Options :=
  if o.config.isSome ∨ path.isEmpty then .none else some { o with config := some path }

/-- Sets the workflow file, whose name must not be empty. -/
def withFile? (o : Options) (path : String) : Option Options :=
  if o.file.isSome ∨ path.isEmpty then .none else some { o with file := some path }

end Options

/-- The argument may be the value of the option before it. -/
def isValue (argument : String) : Bool :=
  argument = "-" || argument.toList.head? != some '-'

/-- The options that take a value. -/
inductive Setting where
  | format
  | config
  deriving DecidableEq

def Setting.ofName? (name : String) : Option Setting :=
  if name = "--format" then some .format
  else if name = "--config" then some .config
  else none

def Setting.set? (s : Setting) (o : Options) (value : String) : Option Options :=
  match s with
  | .format => o.withFormat? value
  | .config => o.withConfig? value

/-- An argument cut at its first equals sign. -/
def cutValue (argument : String) : String × Option String :=
  let cs := argument.toList
  match cs.dropWhile (· != '=') with
  | [] => (argument, none)
  | _ :: value => (String.ofList (cs.takeWhile (· != '=')), some (String.ofList value))

/-- The arguments behind `--`. -/
def files (o : Options) : List String → Request
  | [] => .run o
  | path :: rest =>
    match o.withFile? path with
    | some o => files o rest
    | none => .misuse

/-- What an argument of one dash asks for: its first letter decides. -/
def shortFlag (argument : String) : Request :=
  match argument.toList with
  | _ :: 'h' :: _ => .help
  | _ :: 'V' :: _ => .version
  | _ => .misuse

/-- What the rest of the arguments asks for. -/
def requestFrom (o : Options) : List String → Request
  | [] => .run o
  | argument :: rest =>
    if argument = "--" then files o rest
    else if isValue argument then
      match o.withFile? argument with
      | some o => requestFrom o rest
      | none => .misuse
    else if argument.toList.take 2 = ['-', '-'] then
      match cutValue argument with
      | (name, some value) =>
        match (Setting.ofName? name).bind fun s => s.set? o value with
        | some o => requestFrom o rest
        | none => .misuse
      | (name, none) =>
        if name = "--help" then .help
        else if name = "--version" then .version
        else
          match Setting.ofName? name, rest with
          | some s, value :: rest =>
            if isValue value then
              match s.set? o value with
              | some o => requestFrom o rest
              | none => .misuse
            else .misuse
          | _, _ => .misuse
    else shortFlag argument

/-- What the arguments ask for. -/
def request (arguments : List String) : Request := requestFrom Options.none arguments

end WorkflowLint.CommandLine

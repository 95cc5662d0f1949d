import WorkflowLint.Config.Basic
import WorkflowLint.Text.Blank
import WorkflowLint.Text.Case

/-!
# Names of variables

A conventional name consists of capitalised words with one blank between two of them
(`followsConvention`). `suggest` brings any name close to that: digits in front are dropped, blanks
become single spaces, and a word is capitalised unless the configuration fixes its spelling.
-/

set_option autoImplicit false

namespace WorkflowLint.Naming

def isUpper (c : Char) : Bool := decide ('A' ≤ c) && decide (c ≤ 'Z')

def isLower (c : Char) : Bool := decide ('a' ≤ c) && decide (c ≤ 'z')

/-- The rest of a conventional name, behind a letter. -/
def continues : List Char → Bool
  | [] => true
  | [c] => isLower c
  | c :: d :: rest =>
    if isLower c then continues (d :: rest)
    else Text.isBlank c && isUpper d && continues rest

/-- Words of an ASCII capital and small letters each, one blank between two words. -/
def followsConvention (name : String) : Bool :=
  match name.toList with
  | [] => false
  | c :: rest => isUpper c && continues rest

/-- The name without the ASCII digits in front. -/
def stripLeadingDigits (name : String) : String :=
  String.ofList (name.toList.dropWhile Char.isDigit)

/-- The first character in upper case, all others in lower case. -/
def capitalize : List Char → List Char
  | [] => []
  | c :: rest => Text.upper c ++ rest.flatMap Text.lower

/-- The fixed spelling of a word if it has one, else the capitalised word. -/
def suggestWord (config : Config) (word : List Char) : String :=
  match config.namingException? (String.ofList word) with
  | some exception => exception
  | none => String.ofList (capitalize word)

/-- The conventional spelling of a name. -/
def suggest (config : Config) (name : String) : String :=
  " ".intercalate ((Text.words (stripLeadingDigits name).toList).map (suggestWord config))

end WorkflowLint.Naming

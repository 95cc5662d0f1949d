import WorkflowLint.Json.Writer
import WorkflowLint.Text.Quoted

/-!
# Why a text was refused

A reader works on the characters it has not read yet, so it says where it stopped by the number of
bytes it left unread (`Stop`); the line and the column follow from the whole text afterwards
(`Position.after`). `Stop.before` is for a fault found between two characters, `Stop.within` for one
that a character carries: the first byte of that character then counts as read.
-/

set_option autoImplicit false

namespace WorkflowLint.Json

/-- What is wrong with a text. -/
inductive Fault where
  | endInValue
  | endInList
  | endInObject
  | endInString
  | expectedValue
  | misspeltWord
  | expectedItemEnd
  | expectedMemberEnd
  | expectedColon
  | keyNotString
  | trailingComma
  | trailingText
  | malformedNumber
  | numberOutOfRange
  | unknownEscape
  | bareControl
  | loneSurrogate
  | cutSurrogatePair
  | nestedTooDeep
  /-- A value of another kind than the reader was to read; of a list or an object only the kind
  is known. -/
  | wrongKind (found : Json) (expected : String)
  | negativeCount (found : Int)
  | unknownField (key : String) (known : List String)
  | repeatedField (key : String)

/-- The kind of a value, with the value itself where it is a scalar. -/
def describe : Json → String
  | .null => "null"
  | .bool b => "boolean `" ++ toString b ++ "`"
  | .num (.int n) => "integer `" ++ String.ofList (Number.renderInt n) ++ "`"
  | .num (.float x) => "floating point `" ++ String.ofList (Number.renderFloat x) ++ "`"
  | .str s => "string " ++ Text.quote s
  | .arr _ => "sequence"
  | .obj _ => "map"

/-- The words for a fault. -/
def Fault.text : Fault → String
  | .endInValue => "EOF while parsing a value"
  | .endInList => "EOF while parsing a list"
  | .endInObject => "EOF while parsing an object"
  | .endInString => "EOF while parsing a string"
  | .expectedValue => "expected value"
  | .misspeltWord => "expected ident"
  | .expectedItemEnd => "expected `,` or `]`"
  | .expectedMemberEnd => "expected `,` or `\x7d`"
  | .expectedColon => "expected `:`"
  | .keyNotString => "key must be a string"
  | .trailingComma => "trailing comma"
  | .trailingText => "trailing characters"
  | .malformedNumber => "invalid number"
  | .numberOutOfRange => "number out of range"
  | .unknownEscape => "invalid escape"
  | .bareControl => "control character (\\u0000-\\u001F) found while parsing a string"
  | .loneSurrogate => "lone leading surrogate in hex escape"
  | .cutSurrogatePair => "unexpected end of hex escape"
  | .nestedTooDeep => "recursion limit exceeded"
  | .wrongKind found expected => "invalid type: " ++ found.describe ++ ", expected " ++ expected
  | .negativeCount found =>
    "invalid value: integer `" ++ String.ofList (Number.renderInt found) ++ "`, expected usize"
  | .unknownField key known =>
    "unknown field `" ++ key ++ "`, expected one of " ++
      ", ".intercalate (known.map fun name => "`" ++ name ++ "`")
  | .repeatedField key => "duplicate field `" ++ key ++ "`"

/-- Bytes of the text that the characters were decoded from. -/
def byteCount (cs : List Char) : Nat := cs.foldl (fun bytes c => bytes + c.utf8Size) 0

/-- A fault and how many bytes were not read when it was found. -/
structure Stop where
  fault : Fault
  unread : Nat

namespace Stop

/-- A fault found in front of the characters left. -/
def before (fault : Fault) (left : List Char) : Stop := ⟨fault, byteCount left⟩

/-- A fault in the first of the characters left; at the end of the text there is none to count. -/
def within (fault : Fault) (left : List Char) : Stop := ⟨fault, byteCount left - 1⟩

end Stop

/-- A line, counted from one, and how many of its bytes come before the position. -/
structure Position where
  line : Nat
  column : Nat
  deriving DecidableEq, Inhabited

namespace Position

/-- The position some bytes further. A position inside a character counts the bytes read of it. -/
def advance (p : Position) : Nat → List Char → Position
  | 0, _ => p
  | _, [] => p
  | bytes + 1, c :: rest =>
    if c = '\n' then advance ⟨p.line + 1, 0⟩ bytes rest
    else advance ⟨p.line, p.column + min (bytes + 1) c.utf8Size⟩ (bytes + 1 - c.utf8Size) rest

/-- The position in a text where `unread` bytes are left. -/
def after (text : List Char) (unread : Nat) : Position :=
  advance ⟨1, 0⟩ (byteCount text - unread) text

end Position

/-- A fault and where in the text it was found. -/
structure ReadError where
  fault : Fault
  position : Position

namespace ReadError

def ofStop (text : List Char) (stop : Stop) : ReadError :=
  ⟨stop.fault, Position.after text stop.unread⟩

def message (e : ReadError) : String :=
  e.fault.text ++ " at line " ++ toString e.position.line ++
    " column " ++ toString e.position.column

end ReadError

end WorkflowLint.Json

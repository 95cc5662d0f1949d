import WorkflowLint.Json.Fault

/-!
# String literals

`Literal.read` reads the inside of a string literal up to its closing quote. An escape of four
hexadecimal digits stands for a UTF-16 unit, so a character beyond the basic plane takes two of them
(`hexEscape`); a unit of such a pair that stands alone is refused.
-/

set_option autoImplicit false

namespace WorkflowLint.Json.Literal

/-- The value of a hexadecimal digit of either case. -/
def hexDigit? (c : Char) : Option Nat :=
  if '0' ≤ c ∧ c ≤ '9' then some (c.toNat - '0'.toNat)
  else if 'a' ≤ c ∧ c ≤ 'f' then some (c.toNat - 'a'.toNat + 10)
  else if 'A' ≤ c ∧ c ≤ 'F' then some (c.toNat - 'A'.toNat + 10)
  else none

/-- Four hexadecimal digits. -/
def hexFour? : List Char → Option (Nat × List Char)
  | a :: b :: c :: d :: rest => do
    let a ← hexDigit? a
    let b ← hexDigit? b
    let c ← hexDigit? c
    let d ← hexDigit? d
    return (((a * 16 + b) * 16 + c) * 16 + d, rest)
  | _ => none

/-- The next four bytes as hexadecimal digits. -/
def hexUnit (cs : List Char) : Except Stop (Nat × List Char) :=
  match hexFour? cs with
  | some result => .ok result
  | none =>
    if byteCount cs < 4 then .error ⟨.endInString, 0⟩
    else .error ⟨.unknownEscape, byteCount cs - 4⟩

/-- A character that must come next inside a surrogate pair. -/
def expectInPair (expected : Char) : List Char → Except Stop (List Char)
  | [] => .error (Stop.within .endInString [])
  | c :: rest =>
    if c = expected then .ok rest else .error (Stop.within .cutSurrogatePair (c :: rest))

/-- The character of an escape whose backslash and `u` have been read. -/
def hexEscape (cs : List Char) : Except Stop (Char × List Char) := do
  let (unit, cs) ← hexUnit cs
  if 0xDC00 ≤ unit ∧ unit ≤ 0xDFFF then
    throw (Stop.before .loneSurrogate cs)
  else if 0xD800 ≤ unit ∧ unit ≤ 0xDBFF then
    let cs ← expectInPair '\\' cs
    let cs ← expectInPair 'u' cs
    let (low, cs) ← hexUnit cs
    if 0xDC00 ≤ low ∧ low ≤ 0xDFFF then
      return (Char.ofNat ((unit - 0xD800) * 0x400 + (low - 0xDC00) + 0x10000), cs)
    else throw (Stop.before .loneSurrogate cs)
  else return (Char.ofNat unit, cs)

/-- The character of an escape of one letter. -/
def shortEscape? (c : Char) : Option Char :=
  if c = '"' then some '"'
  else if c = '\\' then some '\\'
  else if c = '/' then some '/'
  else if c = 'b' then some '\x08'
  else if c = 'f' then some '\x0c'
  else if c = 'n' then some '\n'
  else if c = 'r' then some '\r'
  else if c = 't' then some '\t'
  else none

/-- The character of an escape whose backslash has been read. -/
def escape : List Char → Except Stop (Char × List Char)
  | [] => .error (Stop.within .endInString [])
  | c :: rest =>
    if c = 'u' then hexEscape rest
    else match shortEscape? c with
      | some d => .ok (d, rest)
      | none => .error (Stop.within .unknownEscape (c :: rest))

/-- Reads on behind the text `done` of a literal. A step takes at least a character, so more steps
than there are characters left suffice. -/
def readFrom (done : String) : Nat → List Char → Except Stop (String × List Char)
  | 0, cs => .error (Stop.within .endInString cs)
  | _ + 1, [] => .error (Stop.within .endInString [])
  | steps + 1, c :: rest =>
    if c = '"' then .ok (done, rest)
    else if c = '\\' then
      match escape rest with
      | .ok (d, rest) => readFrom (done.push d) steps rest
      | .error stop => .error stop
    else if c.toNat < 32 then .error (Stop.within .bareControl (c :: rest))
    else readFrom (done.push c) steps rest

/-- The text of a literal whose opening quote has been read. -/
def read (steps : Nat) (cs : List Char) : Except Stop (String × List Char) := readFrom "" steps cs

end WorkflowLint.Json.Literal

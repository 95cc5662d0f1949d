import WorkflowLint.Json.Literal
import WorkflowLint.Json.Numeral

/-!
# Reading a text

Recursive descent over the characters that are left. The reader of a list takes the reader of an
item, the reader of an object the reader of a member, so `value` recurses on nothing but the
brackets it may still open (`nestingLimit` at the start). The loops over items, members and the
characters of a literal may take `steps` steps each; a step that succeeds reads at least one
character, so any number above that of the characters does.

`ofText` is the reader of whole texts. Only its result tells which texts are JSON; every fault names
the first place where the text stops being one.
-/

set_option autoImplicit false

namespace WorkflowLint.Json

namespace Reader

/-- Reads something at the start of a text and gives back the text behind it. -/
abbrev Scan (α : Type) := List Char → Except Stop (α × List Char)

def isBlank (c : Char) : Bool := c == ' ' || c == '\t' || c == '\n' || c == '\r'

/-- The text from its first character that is not blank. -/
def skip (cs : List Char) : List Char := cs.dropWhile isBlank

/-- A word whose letters must be these. -/
def word : List Char → List Char → Except Stop (List Char)
  | [], cs => .ok cs
  | _ :: _, [] => .error (Stop.within .endInValue [])
  | letter :: letters, c :: rest =>
    if c = letter then word letters rest else .error (Stop.within .misspeltWord (c :: rest))

/-- A value that is neither a list nor an object. -/
def scalar (steps : Nat) : Scan Json
  | [] => .error (Stop.within .endInValue [])
  | c :: rest =>
    if c = 'n' then (word ['u', 'l', 'l'] rest).map fun rest => (.null, rest)
    else if c = 't' then (word ['r', 'u', 'e'] rest).map fun rest => (.bool true, rest)
    else if c = 'f' then (word ['a', 'l', 's', 'e'] rest).map fun rest => (.bool false, rest)
    else if c = '"' then (Literal.read steps rest).map fun (s, rest) => (.str s, rest)
    else if c = '-' then (Numeral.read true rest).map fun (n, rest) => (.num n, rest)
    else if c.isDigit then (Numeral.read false (c :: rest)).map fun (n, rest) => (.num n, rest)
    else .error (Stop.within .expectedValue (c :: rest))

/-! ### Lists -/

/-- Behind the opening bracket: whether an item follows, and the text at it or behind the list. -/
def firstItem (cs : List Char) : Except Stop (Bool × List Char) :=
  match skip cs with
  | [] => .error (Stop.within .endInList [])
  | c :: rest => if c = ']' then .ok (false, rest) else .ok (true, c :: rest)

/-- Behind an item: whether another follows, and the text at it or behind the list. -/
def nextItem (cs : List Char) : Except Stop (Bool × List Char) :=
  match skip cs with
  | [] => .error (Stop.within .endInList [])
  | c :: rest =>
    if c = ']' then .ok (false, rest)
    else if c = ',' then
      match skip rest with
      | [] => .error (Stop.within .endInValue [])
      | d :: rest =>
        if d = ']' then .error (Stop.within .trailingComma (d :: rest)) else .ok (true, d :: rest)
    else .error (Stop.within .expectedItemEnd (c :: rest))

/-- The items from here to the end of the list. -/
def items {α : Type} (item : Scan α) : Nat → Scan (List α)
  | 0, cs => .error (Stop.within .endInList cs)
  | steps + 1, cs => do
    let (v, cs) ← item cs
    let (more, cs) ← nextItem cs
    if more then
      let (vs, cs) ← items item steps cs
      return (v :: vs, cs)
    else return ([v], cs)

/-- The items of a list whose opening bracket has been read. -/
def list {α : Type} (steps : Nat) (item : Scan α) : Scan (List α) := fun cs => do
  let (more, cs) ← firstItem cs
  if more then items item steps cs else return ([], cs)

/-! ### Objects -/

/-- Behind the opening brace: whether a member follows, and the text behind the quote that opens
its key or behind the object. -/
def firstMember (cs : List Char) : Except Stop (Bool × List Char) :=
  match skip cs with
  | [] => .error (Stop.within .endInObject [])
  | c :: rest =>
    if c = '\x7d' then .ok (false, rest)
    else if c = '"' then .ok (true, rest)
    else .error (Stop.within .keyNotString (c :: rest))

/-- Behind a member: whether another follows, and the text behind the quote that opens its key or
behind the object. -/
def nextMember (cs : List Char) : Except Stop (Bool × List Char) :=
  match skip cs with
  | [] => .error (Stop.within .endInObject [])
  | c :: rest =>
    if c = '\x7d' then .ok (false, rest)
    else if c = ',' then
      match skip rest with
      | [] => .error (Stop.within .endInValue [])
      | d :: rest =>
        if d = '"' then .ok (true, rest)
        else if d = '\x7d' then .error (Stop.within .trailingComma (d :: rest))
        else .error (Stop.within .keyNotString (d :: rest))
    else .error (Stop.within .expectedMemberEnd (c :: rest))

/-- The colon between a key and its value. -/
def colon (cs : List Char) : Except Stop (List Char) :=
  match skip cs with
  | [] => .error (Stop.within .endInObject [])
  | c :: rest => if c = ':' then .ok rest else .error (Stop.within .expectedColon (c :: rest))

/-- The members from here to the end of the object. The reader of a member starts behind the quote
that opens the key and is told the keys before it. -/
def members {α : Type} (member : List String → Scan (String × α)) :
    Nat → List String → Scan (List (String × α))
  | 0, _, cs => .error (Stop.within .endInObject cs)
  | steps + 1, seen, cs => do
    let (m, cs) ← member seen cs
    let (more, cs) ← nextMember cs
    if more then
      let (ms, cs) ← members member steps (m.1 :: seen) cs
      return (m :: ms, cs)
    else return ([m], cs)

/-- The members of an object whose opening brace has been read. -/
def object {α : Type} (steps : Nat) (member : List String → Scan (String × α)) :
    Scan (List (String × α)) := fun cs => do
  let (more, cs) ← firstMember cs
  if more then members member steps [] cs else return ([], cs)

/-- A member with any key, the quote that opens the key read. -/
def member {α : Type} (steps : Nat) (value : Scan α) : Scan (String × α) := fun cs => do
  let (key, cs) ← Literal.read steps cs
  let cs ← colon cs
  let (v, cs) ← value cs
  return ((key, v), cs)

/-! ### Values -/

/-- A value that opens at most `depth` brackets inside one another. -/
def value (steps depth : Nat) (cs : List Char) : Except Stop (Json × List Char) :=
  match skip cs with
  | [] => .error (Stop.within .endInValue [])
  | c :: rest =>
    if c = '[' then
      match depth with
      | 0 => .error (Stop.within .nestedTooDeep (c :: rest))
      | depth + 1 => (list steps (value steps depth) rest).map fun (vs, cs) => (.arr vs, cs)
    else if c = '\x7b' then
      match depth with
      | 0 => .error (Stop.within .nestedTooDeep (c :: rest))
      | depth + 1 =>
        (object steps (fun _ => member steps (value steps depth)) rest).map fun (ms, cs) =>
          (.obj ms, cs)
    else scalar steps (c :: rest)

/-- A scan that must use up the whole text; it is told how many steps suffice. -/
def whole {α : Type} (scan : Nat → Scan α) (text : List Char) : Except ReadError α :=
  match scan (text.length + 1) text with
  | .error stop => .error (ReadError.ofStop text stop)
  | .ok (v, cs) =>
    if (skip cs).isEmpty then .ok v
    else .error (ReadError.ofStop text (Stop.within .trailingText (skip cs)))

end Reader

/-- How many brackets may be open at once. -/
def nestingLimit : Nat := 127

/-- The value a text says, with repeated members as they stand. -/
def ofText (text : String) : Except ReadError Json :=
  Reader.whole (fun steps => Reader.value steps nestingLimit) text.toList

end WorkflowLint.Json

import WorkflowLint.Json.Reader

/-!
# Reading a record

A record has named fields, each of one kind. It is written as an object of some of its fields, in
any order and none twice, or as a list of its first fields' values. The reader stops at the first
fault, so a text can be refused for its kind before it is refused for its syntax further on; what it
accepts is a value that the general reader accepts too.
-/

set_option autoImplicit false

namespace WorkflowLint.Json.Record

open Reader

/-- What a field holds. -/
inductive Kind where
  | count
  | text
  | texts
  deriving DecidableEq

/-- The words for what a field of the kind should hold. -/
def Kind.expected : Kind → String
  | .count => "usize"
  | .text => "a string"
  | .texts => "a sequence"

/-- The bracket that opens a list or an object, as an empty one of these. -/
def opening? (c : Char) : Option Json :=
  if c = '[' then some (.arr [])
  else if c = '\x7b' then some (.obj [])
  else none

/-- A scalar that `refuse` finds no fault with. The fault stands behind the scalar, the one of a
list or an object in front of it. -/
def scalarUnless (steps : Nat) (refuse : Json → Option Fault) : Scan Json := fun cs =>
  match skip cs with
  | [] => .error (Stop.within .endInValue [])
  | c :: rest =>
    match opening? c with
    | some v => .error (Stop.before ((refuse v).getD .expectedValue) (c :: rest))
    | none => do
      let (v, rest) ← scalar steps (c :: rest)
      match refuse v with
      | some fault => throw (Stop.before fault rest)
      | none => return (v, rest)

/-- Counts are integers from zero up. -/
def refuseCount : Json → Option Fault
  | .num (.int n) => if n < 0 then some (.negativeCount n) else none
  | v => some (.wrongKind v Kind.count.expected)

def refuseText : Json → Option Fault
  | .str _ => none
  | v => some (.wrongKind v Kind.text.expected)

/-- Refuses every value, as of another kind than the expected one. -/
def refuseAll (expected : String) (v : Json) : Option Fault := some (.wrongKind v expected)

/-- A value of the kind. -/
def Kind.read (steps : Nat) : Kind → Scan Json
  | .count => scalarUnless steps refuseCount
  | .text => scalarUnless steps refuseText
  | .texts => fun cs =>
    match skip cs with
    | '[' :: rest =>
      (list steps (scalarUnless steps refuseText) rest).map fun (vs, cs) => (.arr vs, cs)
    | cs => scalarUnless steps (refuseAll Kind.texts.expected) cs

/-- A key that is refused; blanks behind it and a brace that closes the object are still read. -/
def stopAtKey (fault : Fault) (cs : List Char) : Stop :=
  match skip cs with
  | '\x7d' :: rest => Stop.before fault rest
  | cs => Stop.before fault cs

/-- A member whose key is a field that has not been seen, the quote that opens the key read. -/
def field (steps : Nat) (fields : List (String × Kind)) (seen : List String) :
    Scan (String × Json) := fun cs => do
  let (key, cs) ← Literal.read steps cs
  match fields.lookup key with
  | none => throw (stopAtKey (.unknownField key (fields.map Prod.fst)) cs)
  | some kind =>
    if key ∈ seen then throw (stopAtKey (.repeatedField key) cs)
    else
      let cs ← colon cs
      let (v, cs) ← kind.read steps cs
      return ((key, v), cs)

/-- The end of a list that has as many items as the record has fields. -/
def closeList (cs : List Char) : Except Stop (List Char) :=
  match skip cs with
  | [] => .error (Stop.within .endInList [])
  | ']' :: rest => .ok rest
  | ',' :: rest =>
    match skip rest with
    | ']' :: rest => .error (Stop.within .trailingComma (']' :: rest))
    | cs => .error (Stop.within .trailingText cs)
  | cs => .error (Stop.within .trailingText cs)

/-- The values of the fields in their order; the list may end before any of them. -/
def positional (steps : Nat) (next : List Char → Except Stop (Bool × List Char)) :
    List (String × Kind) → Scan (List (String × Json))
  | [], cs => do return ([], ← closeList cs)
  | (name, kind) :: fields, cs => do
    let (more, cs) ← next cs
    if more then
      let (v, cs) ← kind.read steps cs
      let (ms, cs) ← positional steps nextItem fields cs
      return ((name, v) :: ms, cs)
    else return ([], cs)

/-- The fields that a record gives, called `expected` where something else stands. -/
def read (expected : String) (fields : List (String × Kind)) (steps : Nat) :
    Scan (List (String × Json)) := fun cs =>
  match skip cs with
  | '[' :: rest => positional steps firstItem fields rest
  | '\x7b' :: rest => object steps (field steps fields) rest
  | cs => (scalarUnless steps (refuseAll expected) cs).map fun (_, cs) => ([], cs)

end WorkflowLint.Json.Record

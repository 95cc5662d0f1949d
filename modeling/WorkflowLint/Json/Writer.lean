import WorkflowLint.Json.Basic
import WorkflowLint.Decimal.Shortest

/-!
# The text of a value

`Json.compact` writes a value without any blank, `Json.pretty` one item a line with two blanks for
each open bracket. Both write the same tokens: integers in decimal, floats with the fewest digits
that read back, strings with the short escapes where there is one and all other text as it is. The
functions on lists of characters are the ones to reason about.
-/

set_option autoImplicit false

namespace WorkflowLint

namespace Decimal

/-- Positional from `10 ^ -5` up to below `10 ^ 16` and never without a fraction, else one digit
before the point and a signed exponent. -/
def render (d : Decimal) : List Char :=
  let digits := Nat.toDigits 10 d.digits
  let point := digits.length + d.exponent
  if 0 < point ∧ point ≤ 16 then
    let whole := point.toNat
    if digits.length ≤ whole then
      digits ++ List.replicate (whole - digits.length) '0' ++ ['.', '0']
    else
      digits.take whole ++ '.' :: digits.drop whole
  else if -5 < point ∧ point ≤ 0 then
    '0' :: '.' :: List.replicate (-point).toNat '0' ++ digits
  else
    let fraction := if digits.length = 1 then [] else '.' :: digits.drop 1
    let sign := if point < 1 then '-' else '+'
    digits.take 1 ++ fraction ++ 'e' :: sign :: Nat.toDigits 10 (point - 1).natAbs

end Decimal

namespace Number

/-- The text of a double, the sign of a zero included. -/
def renderFloat (x : Float) : List Char :=
  let bits := x.toBits
  let sign := if Nat.pow 2 63 ≤ bits.toNat then ['-'] else []
  let magnitude := Binary.ofBits bits
  sign ++ (if magnitude.mantissa = 0 then ['0', '.', '0'] else magnitude.shortest.render)

def renderInt : Int → List Char
  | .ofNat n => Nat.toDigits 10 n
  | .negSucc n => '-' :: Nat.toDigits 10 (n + 1)

def render : Number → List Char
  | .int n => renderInt n
  | .float x => renderFloat x

end Number

namespace Json

/-- What a string literal holds for a character: quotes, backslashes and controls are escaped. -/
def escape (c : Char) : List Char :=
  if c = '"' then ['\\', '"']
  else if c = '\\' then ['\\', '\\']
  else if c = '\x08' then ['\\', 'b']
  else if c = '\x0c' then ['\\', 'f']
  else if c = '\n' then ['\\', 'n']
  else if c = '\r' then ['\\', 'r']
  else if c = '\t' then ['\\', 't']
  else if c.toNat < 32 then
    ['\\', 'u', '0', '0', Nat.digitChar (c.toNat / 16), Nat.digitChar (c.toNat % 16)]
  else [c]

/-- A string literal. -/
def renderString (s : String) : List Char :=
  '"' :: s.toList.flatMap escape ++ ['"']

mutual

def render : Json → List Char
  | .null => ['n', 'u', 'l', 'l']
  | .bool true => ['t', 'r', 'u', 'e']
  | .bool false => ['f', 'a', 'l', 's', 'e']
  | .num n => n.render
  | .str s => renderString s
  | .arr [] => ['[', ']']
  | .arr (v :: rest) => '[' :: render v ++ renderItems rest ++ [']']
  | .obj [] => ['\x7b', '\x7d']
  | .obj ((k, v) :: rest) =>
    '\x7b' :: renderString k ++ ':' :: render v ++ renderMembers rest ++ ['\x7d']

/-- The items after the first, each behind a comma. -/
def renderItems : List Json → List Char
  | [] => []
  | v :: rest => ',' :: render v ++ renderItems rest

/-- The members after the first, each behind a comma. -/
def renderMembers : List (String × Json) → List Char
  | [] => []
  | (k, v) :: rest => ',' :: renderString k ++ ':' :: render v ++ renderMembers rest

end

/-- A line break and the blanks of `depth` open brackets. -/
def newline (depth : Nat) : List Char :=
  '\n' :: List.replicate (2 * depth) ' '

mutual

/-- The text of a value that stands inside `depth` brackets, an item a line. -/
def renderPretty (depth : Nat) : Json → List Char
  | .null => ['n', 'u', 'l', 'l']
  | .bool true => ['t', 'r', 'u', 'e']
  | .bool false => ['f', 'a', 'l', 's', 'e']
  | .num n => n.render
  | .str s => renderString s
  | .arr [] => ['[', ']']
  | .arr (v :: rest) =>
    '[' :: newline (depth + 1) ++ renderPretty (depth + 1) v ++
      renderPrettyItems (depth + 1) rest ++ newline depth ++ [']']
  | .obj [] => ['\x7b', '\x7d']
  | .obj ((k, v) :: rest) =>
    '\x7b' :: newline (depth + 1) ++ renderString k ++ ':' :: ' ' :: renderPretty (depth + 1) v ++
      renderPrettyMembers (depth + 1) rest ++ newline depth ++ ['\x7d']

def renderPrettyItems (depth : Nat) : List Json → List Char
  | [] => []
  | v :: rest => ',' :: newline depth ++ renderPretty depth v ++ renderPrettyItems depth rest

def renderPrettyMembers (depth : Nat) : List (String × Json) → List Char
  | [] => []
  | (k, v) :: rest =>
    ',' :: newline depth ++ renderString k ++ ':' :: ' ' :: renderPretty depth v ++
      renderPrettyMembers depth rest

end

/-- The text of a value without any blank. -/
def compact (v : Json) : String := String.ofList v.render

/-- The text of a value, an item a line. -/
def pretty (v : Json) : String := String.ofList (v.renderPretty 0)

theorem toList_compact (v : Json) : v.compact.toList = v.render := by simp [compact]

end Json

end WorkflowLint

import WorkflowLint.Json.Fault

/-!
# Numerals

A numeral is scanned into its parts (`Numeral.scan`) and then valued (`Numeral.value`). A numeral
with neither fraction nor exponent is an integer if it fits 64 bits. Every other one is a double,
computed in a fixed way that need not be the nearest double: as many digits as fit 64 bits make the
significand, further digits of the whole part only raise the exponent, further digits of the
fraction are dropped, and one multiplication or division by a power of ten finishes the value.
-/

set_option autoImplicit false

namespace WorkflowLint.Json

/-- The parts of a numeral: digits before the point, digits behind it (none without a point) and
the exponent, with whether it is negative. -/
structure Numeral where
  negative : Bool
  whole : List Char
  fraction : List Char
  exponent : Option (Bool × List Char)

namespace Numeral

/-- A run of digits, which must not be empty. -/
def digits (cs : List Char) : Except Stop (List Char × List Char) :=
  match cs.takeWhile Char.isDigit with
  | [] => .error (Stop.within (if cs.isEmpty then .endInValue else .malformedNumber) cs)
  | ds => .ok (ds, cs.dropWhile Char.isDigit)

/-- The digits before the point: a leading zero stands alone. -/
def scanWhole : List Char → Except Stop (List Char × List Char)
  | '0' :: rest =>
    if (rest.takeWhile Char.isDigit).isEmpty then .ok (['0'], rest)
    else .error (Stop.within .malformedNumber rest)
  | cs => digits cs

def scanFraction : List Char → Except Stop (List Char × List Char)
  | '.' :: rest => digits rest
  | cs => .ok ([], cs)

/-- The sign of an exponent, `true` for a minus. -/
def scanSign : List Char → Bool × List Char
  | '+' :: rest => (false, rest)
  | '-' :: rest => (true, rest)
  | cs => (false, cs)

def scanExponent : List Char → Except Stop (Option (Bool × List Char) × List Char)
  | c :: rest =>
    if c = 'e' ∨ c = 'E' then do
      let (negative, rest) := scanSign rest
      let (ds, rest) ← digits rest
      return (some (negative, ds), rest)
    else .ok (none, c :: rest)
  | [] => .ok (none, [])

/-- The numeral at the start of the text, whose minus has been read if it has one. -/
def scan (negative : Bool) (cs : List Char) : Except Stop (Numeral × List Char) := do
  let (whole, cs) ← scanWhole cs
  let (fraction, cs) ← scanFraction cs
  let (exponent, cs) ← scanExponent cs
  return (⟨negative, whole, fraction, exponent⟩, cs)

/-- Appends digits to a number as long as it stays within the limit; the rest is left over. -/
def gather (limit : Nat) : Nat → List Char → Nat × List Char
  | n, [] => (n, [])
  | n, c :: rest =>
    let next := 10 * n + (c.toNat - '0'.toNat)
    if limit < next then (n, c :: rest) else gather limit next rest

/-- Divides by `10 ^ 308` the given number of times, or until nothing is left. -/
def divideBlocks : Nat → Float → Float
  | 0, x => x
  | count + 1, x => if x == 0.0 then x else divideBlocks count (x / Float.ofNat (Nat.pow 10 308))

/-- The double for `significand * 10 ^ exponent`; none if it is too large. -/
def scale? (significand : Nat) (exponent : Int) : Option Float :=
  let x := Float.ofNat significand
  match exponent with
  | .ofNat e =>
    if e ≤ 308 then
      let product := x * Float.ofNat (Nat.pow 10 e)
      if product.isInf then none else some product
    else if significand = 0 then some x
    else none
  | .negSucc e =>
    let blocks := e / 308
    some (divideBlocks blocks x / Float.ofNat (Nat.pow 10 (e + 1 - 308 * blocks)))

/-- The largest significand. -/
def maxSignificand : Nat := Nat.pow 2 64 - 1

/-- The largest exponent. -/
def maxExponent : Nat := Nat.pow 2 31 - 1

def signed (negative : Bool) (x : Float) : Number := .float (if negative then -x else x)

/-- An integer literal: a double if it is too large for 64 bits or a negative zero. -/
def integer (negative : Bool) (magnitude : Nat) : Number :=
  if negative then
    if 0 < magnitude ∧ magnitude ≤ Nat.pow 2 63 then .int (-magnitude)
    else signed true (Float.ofNat magnitude)
  else .int magnitude

/-- The number, or how many digits of the numeral follow the one that puts it out of range. -/
def value (n : Numeral) : Except Nat Number :=
  let (high, overflow) := gather maxSignificand 0 n.whole
  if n.fraction.isEmpty ∧ n.exponent.isNone ∧ overflow.isEmpty then
    .ok (integer n.negative high)
  else
    let (significand, dropped) := gather maxSignificand high n.fraction
    let shift : Int := overflow.length - (n.fraction.length - dropped.length : Nat)
    let finish := fun exponent =>
      match scale? significand exponent with
      | some x => .ok (signed n.negative x)
      | none => .error 0
    match n.exponent with
    | none => finish shift
    | some (negative, ds) =>
      match gather maxExponent 0 ds with
      | (e, []) => finish (if negative then shift - e else shift + e)
      | (_, _ :: unseen) =>
        if significand = 0 ∨ negative then .ok (signed n.negative 0.0) else .error unseen.length

/-- The number at the start of the text, whose minus has been read if it has one. -/
def read (negative : Bool) (cs : List Char) : Except Stop (Number × List Char) := do
  let (numeral, rest) ← scan negative cs
  match numeral.value with
  | .ok n => return (n, rest)
  | .error unseen => throw ⟨.numberOutOfRange, byteCount rest + unseen⟩

end Numeral

end WorkflowLint.Json

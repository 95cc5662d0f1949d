import WorkflowLint.Json.Members
import WorkflowLint.Json.Reader

/-!
# The grammar of JSON

Which texts say a value, told without a reader: a relation between values and texts for each kind of
value, put together from relations for the parts. There are many texts for one value, since blanks may
stand between any two tokens and a character may be spelled in several ways, but integers have one
spelling only.

`Spells` counts the brackets that may be open at once, as the reader does.
-/

set_option autoImplicit false

namespace WorkflowLint.Json

/-- The text has nothing but blanks. -/
def Blank (cs : List Char) : Prop := ∀ c ∈ cs, Reader.isBlank c

/-! ### String literals -/

namespace Literal

/-- Four hexadecimal digits and the number they say. -/
inductive HexUnit : Nat → List Char → Prop
  | mk {a b c d : Char} {i j k l : Nat} (first : hexDigit? a = some i) (second : hexDigit? b = some j)
      (third : hexDigit? c = some k) (fourth : hexDigit? d = some l) :
    HexUnit (((i * 16 + j) * 16 + k) * 16 + l) [a, b, c, d]

/-- A character and its spellings inside a literal: itself, an escape of one letter, or one or two
UTF-16 units. -/
inductive Spelling : Char → List Char → Prop
  | plain {c : Char} (quote : c ≠ '"') (backslash : c ≠ '\\') (visible : ¬c.toNat < 32) :
    Spelling c [c]
  | letter {c e : Char} (h : shortEscape? e = some c) : Spelling c ['\\', e]
  | unit {n : Nat} {u : List Char} (hex : HexUnit n u) (low : ¬(0xDC00 ≤ n ∧ n ≤ 0xDFFF))
      (high : ¬(0xD800 ≤ n ∧ n ≤ 0xDBFF)) :
    Spelling (Char.ofNat n) ('\\' :: 'u' :: u)
  | pair {n m : Nat} {u v : List Char} (hex : HexUnit n u) (hex' : HexUnit m v)
      (high : 0xD800 ≤ n ∧ n ≤ 0xDBFF) (low : 0xDC00 ≤ m ∧ m ≤ 0xDFFF) :
    Spelling (Char.ofNat ((n - 0xD800) * 0x400 + (m - 0xDC00) + 0x10000))
      ('\\' :: 'u' :: (u ++ '\\' :: 'u' :: v))

/-- Characters and their spellings, one behind the other. -/
inductive Spells : List Char → List Char → Prop
  | nil : Spells [] []
  | cons {c : Char} {s cs rest : List Char} (first : Spelling c cs) (behind : Spells s rest) :
    Spells (c :: s) (cs ++ rest)

end Literal

/-! ### Numerals -/

namespace Numeral

/-- Decimal digits, at least one. -/
def Digits (ds : List Char) : Prop := ds ≠ [] ∧ ∀ c ∈ ds, c.isDigit

/-- The digits before the point: no zero in front of others. -/
def Whole (ds : List Char) : Prop := Digits ds ∧ (ds.head? = some '0' → ds = ['0'])

/-- The digits behind the point and their text; without a point there are none. -/
inductive Fraction : List Char → List Char → Prop
  | none : Fraction [] []
  | some {ds : List Char} (digits : Digits ds) : Fraction ds ('.' :: ds)

/-- An exponent and its text. -/
inductive Exponent : Option (Bool × List Char) → List Char → Prop
  | none : Exponent none []
  | unsigned {e : Char} {ds : List Char} (mark : e = 'e' ∨ e = 'E') (digits : Digits ds) :
    Exponent (some (false, ds)) (e :: ds)
  | plus {e : Char} {ds : List Char} (mark : e = 'e' ∨ e = 'E') (digits : Digits ds) :
    Exponent (some (false, ds)) (e :: '+' :: ds)
  | minus {e : Char} {ds : List Char} (mark : e = 'e' ∨ e = 'E') (digits : Digits ds) :
    Exponent (some (true, ds)) (e :: '-' :: ds)

/-- A numeral and its text behind the sign. -/
structure Spells (n : Numeral) (cs : List Char) : Prop where
  whole : Whole n.whole
  parts : ∃ f e, Fraction n.fraction f ∧ Exponent n.exponent e ∧ cs = n.whole ++ (f ++ e)

end Numeral

/-! ### Values -/

/-- A value without brackets and its text. An integer of 64 bits is written in decimal digits without
a leading zero, and with a minus only if it is negative; all other numerals say doubles. -/
inductive Scalar : Json → List Char → Prop
  | null : Scalar .null ['n', 'u', 'l', 'l']
  | yes : Scalar (.bool true) ['t', 'r', 'u', 'e']
  | no : Scalar (.bool false) ['f', 'a', 'l', 's', 'e']
  | count {n : Nat} (fits : n < Nat.pow 2 64) : Scalar (.num (.int n)) (Nat.toDigits 10 n)
  | negative {n : Nat} (positive : 0 < n) (fits : n ≤ Nat.pow 2 63) :
    Scalar (.num (.int (-n))) ('-' :: Nat.toDigits 10 n)
  | double {n : Numeral} {x : Float} {cs : List Char} (spells : n.Spells cs)
      (value : n.value = .ok (.float x)) :
    Scalar (.num (.float x)) (if n.negative then '-' :: cs else cs)
  | str {s : String} {cs : List Char} (chars : Literal.Spells s.toList cs) :
    Scalar (.str s) ('"' :: (cs ++ ['"']))

section

variable {α : Type} (part : α → List Char → Prop)

/-- The text of a thing, with blanks around it. -/
inductive Padded (a : α) : List Char → Prop
  | mk {before cs behind : List Char} (blank : Blank before) (spells : part a cs)
      (blank' : Blank behind) :
    Padded a (before ++ (cs ++ behind))

/-- The texts of things, at least one, with commas between them. -/
inductive Separated : List α → List Char → Prop
  | last {a : α} {cs : List Char} (spells : part a cs) : Separated [a] cs
  | more {a : α} {as : List α} {cs rest : List Char} (spells : part a cs)
      (behind : Separated as rest) :
    Separated (a :: as) (cs ++ ',' :: rest)

/-- What stands between two brackets: blanks, or things with commas between them. -/
inductive Listed : List α → List Char → Prop
  | none {cs : List Char} (blank : Blank cs) : Listed [] cs
  | some {as : List α} {cs : List Char} (parts : Separated (Padded part) as cs) : Listed as cs

/-- A key and a thing with a colon between them. -/
inductive Member : String × α → List Char → Prop
  | mk {key : String} {a : α} {name gap gap' cs : List Char}
      (chars : Literal.Spells key.toList name) (blank : Blank gap) (blank' : Blank gap')
      (spells : part a cs) :
    Member (key, a) ('"' :: (name ++ '"' :: (gap ++ ':' :: (gap' ++ cs))))

end

/-- A scalar, or brackets around what is spelled inside of them. -/
inductive Bracketed (inside : Json → List Char → Prop) : Json → List Char → Prop
  | scalar {v : Json} {cs : List Char} (h : Scalar v cs) : Bracketed inside v cs
  | arr {items : List Json} {cs : List Char} (h : Listed inside items cs) :
    Bracketed inside (.arr items) ('[' :: (cs ++ [']']))
  | obj {members : Members Json} {cs : List Char} (h : Listed (Member inside) members cs) :
    Bracketed inside (.obj members) ('\x7b' :: (cs ++ ['\x7d']))

/-- A value and its texts with at most `room` brackets open at once. -/
def Spells : Nat → Json → List Char → Prop
  | 0 => Scalar
  | room + 1 => Bracketed (Spells room)

end WorkflowLint.Json

/-!
# The shortest decimal that reads back

A positive double is a mantissa times a power of two (`Binary`), and the reals that round to it form
an interval around it: half the gap to each neighbour, both ends included exactly when the mantissa
is even. `Binary.shortest` is the decimal with the fewest digits inside that interval. It looks at
ever finer decimal grids, and on each grid only at the two points next to the value: if any point of
a grid lies in the interval, one of those two does. All comparisons are between natural numbers.
-/

set_option autoImplicit false

namespace WorkflowLint

/-- The number `mantissa * 2 ^ exponent`. -/
structure Binary where
  mantissa : Nat
  exponent : Int
  deriving DecidableEq, Inhabited

/-- The number `digits * 10 ^ exponent`. -/
structure Decimal where
  digits : Nat
  exponent : Int
  deriving DecidableEq, Inhabited

namespace Binary

/-- The exponent that every double below the normal range has. -/
def leastExponent : Int := -1074

/-- The magnitude of the double with these bits; the sign bit is left out. -/
def ofBits (bits : UInt64) : Binary :=
  let fraction : Nat := bits.toNat % Nat.pow 2 52
  let biased : Nat := bits.toNat / Nat.pow 2 52 % Nat.pow 2 11
  if biased = 0 then ⟨fraction, leastExponent⟩
  else ⟨Nat.pow 2 52 + fraction, (biased : Int) - 1075⟩

/-- The gap below a power of two is half the gap above it. -/
def narrowBelow (x : Binary) : Bool :=
  x.mantissa == Nat.pow 2 52 && x.exponent != leastExponent

/-- A quarter of the gap above `x` is `numerator / denominator` steps of the grid `10 ^ grid`. -/
def quarterGap (x : Binary) (grid : Int) : Nat × Nat :=
  (Nat.pow 2 (x.exponent - 2).toNat * Nat.pow 10 (-grid).toNat,
    Nat.pow 2 (2 - x.exponent).toNat * Nat.pow 10 grid.toNat)

/-- The point next to `x` on the grid `10 ^ grid` that rounds to `x`: of two the nearer, and of two
equally near the even one. -/
def nearestOn (x : Binary) (grid : Int) : Option Nat :=
  let (step, unit) := x.quarterGap grid
  let value := 4 * x.mantissa * step
  let low := value - (if x.narrowBelow then 1 else 2) * step
  let high := value + 2 * step
  let inside := fun point =>
    if x.mantissa % 2 = 0 then decide (low ≤ point * unit) && decide (point * unit ≤ high)
    else decide (low < point * unit) && decide (point * unit < high)
  let below := value / unit
  let above := below + 1
  match inside below, inside above with
  | false, false => none
  | true, false => some below
  | false, true => some above
  | true, true =>
    let down := value - below * unit
    let up := above * unit - value
    if down < up then some below
    else if up < down then some above
    else if below % 2 = 0 then some below
    else some above

/-- The first hit on the grids from `10 ^ grid` down, at most `count` of them. -/
def firstHit (x : Binary) : Nat → Int → Decimal
  | 0, grid => ⟨0, grid⟩
  | count + 1, grid =>
    match x.nearestOn grid with
    | some digits => ⟨digits, grid⟩
    | none => firstHit x count (grid - 1)

/-- A grid coarser than the value: `30103 / 100000` is just above the decimal logarithm of two. -/
def coarseGrid (x : Binary) : Int :=
  (x.mantissa.log2 + 1 + x.exponent) * 30103 / 100000 + 2

/-- The fewest digits that read back as `x`; seventeen always do, so few grids are looked at. -/
def shortest (x : Binary) : Decimal :=
  x.firstHit 24 x.coarseGrid

end Binary

end WorkflowLint

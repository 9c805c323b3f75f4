import CloudPlan.Decimal.Binary64

/-!
# The shortest decimal of a double

`Binary64.shortest` gives the decimal `d * 10 ^ k` with the fewest digits that rounds to a given
double and, among those, the one nearest to it. All arithmetic is exact.
-/

set_option autoImplicit false

namespace CloudPlan.Binary64

/-- The reals that round to a double, as `low`, `value` and `high` over one denominator; the ends
belong to the interval when `closed`. -/
structure Interval where
  low : Nat
  value : Nat
  high : Nat
  denominator : Nat
  closed : Bool

/-- The interval of a magnitude `m * 2 ^ q`. Below a power of two the gap is half as wide. -/
def interval (x : Binary64) : Interval :=
  let (m, q) := x.significand
  let narrow := m == leadingBit && decide (-1074 < q)
  let scale (n : Nat) : Nat := if 0 ≤ q then n * Nat.pow 2 q.toNat else n
  { low := scale (if narrow then 4 * m - 1 else 4 * m - 2)
    value := scale (4 * m)
    high := scale (4 * m + 2)
    denominator := if 0 ≤ q then 4 else 4 * Nat.pow 2 (-q).toNat
    closed := m % 2 == 0 }

/-- Whether `num / den` lies in the interval. -/
def Interval.contains (i : Interval) (num den : Nat) : Bool :=
  let x := num * i.denominator
  if i.closed then i.low * den ≤ x && x ≤ i.high * den else i.low * den < x && x < i.high * den

/-- Natural numbers `num` and `den` with `num / den = d * 10 ^ k`. -/
def decimalRatio (d : Nat) (k : Int) : Nat × Nat :=
  if 0 ≤ k then (d * Nat.pow 10 k.toNat, 1) else (d, Nat.pow 10 (-k).toNat)

/-- The multiple of `10 ^ k` in the interval that is nearest to its value, among the two
neighbours of that value; of two equally near ones the even one. -/
def Interval.onGrid (i : Interval) (k : Int) : Option Nat :=
  let (unit, den) := decimalRatio 1 k
  let num := i.value * den
  let step := i.denominator * unit
  let below := num / step
  let inside (d : Nat) : Bool := let (n, e) := decimalRatio d k; i.contains n e
  match inside below, inside (below + 1) with
  | true, true =>
    let twice := 2 * (num % step)
    if twice < step then some below
    else if step < twice then some (below + 1)
    else some (below + below % 2)
  | true, false => some below
  | false, true => some (below + 1)
  | false, false => none

/-- An integer `e` with `10 ^ (e - 1) ≤ value < 10 ^ (e + 1)`, from the length in bits. -/
def Interval.decimalExponent (i : Interval) : Int :=
  ((floorLog2 i.value i.denominator) * 30103) / 100000 + 1

/-- The first grid, from coarse to fine, that has a point in the interval. -/
def Interval.firstGrid (i : Interval) (k : Int) : Nat → Nat × Int
  | 0 => (i.value * (decimalRatio 1 k).2 / (i.denominator * (decimalRatio 1 k).1), k)
  | steps + 1 =>
    match i.onGrid k with
    | some 0 => i.firstGrid (k - 1) steps
    | some d => (d, k)
    | none => i.firstGrid (k - 1) steps

/-- A decimal without the zeros at the end of its digits. -/
def dropZeros (d : Nat) (k : Int) : Nat → Nat × Int
  | 0 => (d, k)
  | fuel + 1 => if d % 10 = 0 && d != 0 then dropZeros (d / 10) (k + 1) fuel else (d, k)

/-- The digits `d` and the exponent `k` of the shortest decimal `d * 10 ^ k` of a magnitude. -/
def shortest (x : Binary64) : Nat × Int :=
  if x.magnitudeBits = 0 then (0, 0)
  else
    let i := x.interval
    let (d, k) := i.firstGrid i.decimalExponent 20
    dropZeros d k 20

end CloudPlan.Binary64

import XmlBinding.Number.Binary

/-!
# The fewest digits that read back

A finite value of a binary format is the nearest one of its format to every number in an interval
around it, ends included when its significand is even. Its shortest decimal is the decimal in that
interval with the fewest significant digits; of two such the nearer one, and of two equally near the
greater one.

* `Shortest.Interval` : the interval, scaled to integers;
* `Shortest.digits f m q` : the shortest decimal `n * 10 ^ e` of the value `m * 2 ^ q`, `0 < m`.
-/

namespace XmlBinding.Shortest

/-- The numbers that round to a value, times a common denominator: from `low` to `high`, around
`value`. -/
structure Interval where
  low : Nat
  value : Nat
  high : Nat
  scale : Nat
  closed : Bool

/-- The interval of `m * 2 ^ q`. Below a power of two the distance to the next value is half the one
above it, unless the exponent is the least one. -/
def Interval.of (f : FloatFormat) (m : Nat) (q : Int) : Interval :=
  let below := if m = Nat.pow 2 (f.precision - 1) ∧ f.least < q then 1 else 2
  let shift := q - 2
  let up := if 0 ≤ shift then Nat.pow 2 shift.toNat else 1
  let down := if 0 ≤ shift then 1 else Nat.pow 2 (-shift).toNat
  ⟨(4 * m - below) * up, 4 * m * up, (4 * m + 2) * up, down, m % 2 = 0⟩

/-- Whether the scaled number `n` lies in the interval. -/
def Interval.holds (i : Interval) (n : Nat) : Bool :=
  if i.closed then i.low ≤ n && n ≤ i.high else i.low < n && n < i.high

/-- The decimal of the grid of multiples of `10 ^ e` that stands for the interval, if the grid has
one: a neighbour of the value on the grid. -/
def Interval.onGrid? (i : Interval) (e : Int) : Option Nat :=
  -- both sides times `10 ^ (-e)` when `e` is negative
  let up := if 0 ≤ e then 1 else Nat.pow 10 (-e).toNat
  let unit := if 0 ≤ e then i.scale * Nat.pow 10 e.toNat else i.scale
  let j : Interval := ⟨i.low * up, i.value * up, i.high * up, 1, i.closed⟩
  let n := j.value / unit
  let below := j.holds (n * unit) && 0 < n
  let above := j.holds ((n + 1) * unit)
  if below && above then
    if j.value - n * unit < (n + 1) * unit - j.value then some n else some (n + 1)
  else if below then some n
  else if above then some (n + 1)
  else none

/-- Floor of the decimal logarithm of the positive quotient `num / den`, searched upwards from
`start`, which is not above it. -/
def floorLog10 (num den : Nat) : Nat → Int → Int
  | 0, start => start
  | steps + 1, start =>
    let next := start + 1
    let fits :=
      if 0 ≤ next then den * Nat.pow 10 next.toNat ≤ num
      else den ≤ num * Nat.pow 10 (-next).toNat
    if fits then floorLog10 num den steps next else start

/-- The first hit on the grids of `e`, `e - 1`, … -/
def Interval.search (i : Interval) : Nat → Int → Nat × Int
  | 0, e => (i.value, e)
  | grids + 1, e =>
    match i.onGrid? e with
    | some n => (n, e)
    | none => i.search grids (e - 1)

/-- The shortest decimal `n * 10 ^ e` of the positive value `m * 2 ^ q`. -/
def digits (f : FloatFormat) (m : Nat) (q : Int) : Nat × Int :=
  let i := Interval.of f m q
  -- 1233 / 4096 is just below the decimal logarithm of two
  let bits := floorLog2 i.value i.scale
  let start := if 0 ≤ bits then bits * 1233 / 4096 - 1 else bits * 1234 / 4096 - 2
  let top := floorLog10 i.value i.scale 400 start
  i.search 20 (top + 1)

end XmlBinding.Shortest

import TableGateway.Decimal.Binary64

/-!
# Shortest decimals

The decimal that is written for a binary number is the one with the fewest digits among those that
read back to the number, and of these the one nearest to it.

## How it is found

The reals that round to a number form an interval around it. It reaches halfway to the neighbours
on either side, and holds its ends exactly if the significand is even. A decimal `c · 10 ^ t` is a
point of the grid with step `10 ^ t`, so fewest digits means the coarsest grid with a point in the
interval, and only the two points next to the number have to be tried.

The search ends: with `t` at most zero and at most the binary exponent, the number itself is a
point of the grid. All comparisons are between natural numbers, both sides having been multiplied
by the missing powers.
-/

namespace TableGateway

/-- The number `coefficient · 10 ^ exponent`. -/
structure Decimal where
  coefficient : Nat
  exponent : Int
  deriving DecidableEq, Repr

namespace Decimal

/-- Which of two equally near decimals is taken. -/
inductive TieRule where
  | awayFromZero
  | toEven
  deriving DecidableEq, Repr

/-- An interval of positive reals around `centre`, all three in units of `2 ^ unit`. -/
structure Interval where
  low : Nat
  centre : Nat
  high : Nat
  unit : Int
  closed : Bool
  deriving DecidableEq, Repr

/-- The reals that round to the number, in quarters of its last binary place. The lower neighbour of
a power of two is only half as far away, except at the bottom of the range. -/
def Interval.around (x : Binary64) : Interval where
  low := 4 * x.significand
    - if x.significand = 1 <<< Binary64.fractionBits ∧ x.exponent ≠ Binary64.leastExponent then 1
      else 2
  centre := 4 * x.significand
  high := 4 * x.significand + 2
  unit := x.exponent - 2
  closed := x.significand % 2 = 0

namespace Interval

/-- The step `10 ^ t` of a grid and one unit of the interval, on a common scale of naturals. -/
def scales (i : Interval) (t : Int) : Nat × Nat :=
  (Nat.pow 10 t.toNat <<< (-i.unit).toNat, Nat.pow 10 (-t).toNat <<< i.unit.toNat)

/-- Whether `c · 10 ^ t` lies in the interval. -/
def holds (i : Interval) (t : Int) (c : Nat) : Bool :=
  let (step, unit) := i.scales t
  if i.closed then i.low * unit ≤ c * step ∧ c * step ≤ i.high * unit
  else i.low * unit < c * step ∧ c * step < i.high * unit

/-- The point of the grid with step `10 ^ t` that lies in the interval nearest to its centre. -/
def nearest? (i : Interval) (tie : TieRule) (t : Int) : Option Nat :=
  let (step, unit) := i.scales t
  let below := i.centre * unit / step
  let above := below + 1
  match i.holds t below, i.holds t above with
  | false, false => none
  | true, false => some below
  | false, true => some above
  | true, true =>
    let toBelow := i.centre * unit - below * step
    let toAbove := above * step - i.centre * unit
    if toBelow < toAbove then some below
    else if toAbove < toBelow then some above
    else match tie with
      | .awayFromZero => some above
      | .toEven => some (if below % 2 = 0 then below else above)

/-- The first hit on the grids from `10 ^ t` down, over `steps` further grids. -/
def coarsest (i : Interval) (tie : TieRule) (t : Int) : Nat → Decimal
  | 0 => ⟨(i.nearest? tie t).getD 0, t⟩
  | steps + 1 =>
    match i.nearest? tie t with
    | some c => ⟨c, t⟩
    | none => i.coarsest tie (t - 1) steps

end Interval

/-- An exponent `t` with `10 ^ t` greater than `2 ^ l`: three tenths of `l` are enough below one,
where `10 ^ 0.3 < 2`, and a little more above, where `10 ^ 0.31 > 2`. -/
def startExponent (l : Int) : Int := if l < 0 then l * 3 / 10 + 1 else l * 31 / 100 + 1

/-- The decimal with the fewest digits that reads back to the absolute value of the number. The
number is below `2 ^ l`, so coarser grids than the one at the start have no point near it. -/
def shortest (tie : TieRule) (x : Binary64) : Decimal :=
  if x.significand = 0 then ⟨0, 0⟩
  else
    let l := x.exponent + x.significand.log2 + 1
    (Interval.around x).coarsest tie (startExponent l) (startExponent l - min x.exponent 0).toNat

end Decimal

end TableGateway

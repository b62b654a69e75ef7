import Facsimile.Decimal.Binary64

/-!
# Shortest decimals

The fewest digits that round back to a binary number, and among those the nearest to it.
-/

namespace Facsimile
namespace Decimal

/-- The decimal number `digits · 10 ^ exponent`. -/
structure Decimal10 where
  digits : Nat
  exponent : Int
  deriving DecidableEq, Repr

/-- Decimal places before the point: `k` with `10 ^ (k - 1) ≤ num / den < 10 ^ k`. -/
def places (num den : Nat) : Int :=
  if den ≤ num then ((Nat.toDigits 10 (num / den)).length : Int)
  else
    let n := (Nat.toDigits 10 (den / num)).length
    if den ≤ Nat.pow 10 (n - 1) * num then 2 - (n : Int) else 1 - (n : Int)

/-- Twice the value, and twice the ends of the interval that rounds to it, over a common
denominator. -/
structure Rounding where
  low : Nat
  value : Nat
  high : Nat
  den : Nat
  closed : Bool

/-- Below a power of two the neighbour is half as far away. -/
def Binary64.rounding (x : Binary64) : Rounding :=
  let m := x.significand
  let gap := if m = Nat.pow 2 52 ∧ Binary64.leastExponent < x.exponent then 1 else 2
  let unit := scaled 1 4 x.exponent
  ⟨(4 * m - gap) * unit.1, 4 * m * unit.1, (4 * m + 2) * unit.1, unit.2, m % 2 == 0⟩

/-- Whether `n · 10 ^ e` rounds to the value. -/
def Rounding.holds (r : Rounding) (n : Nat) (e : Int) : Bool :=
  let point := if 0 ≤ e then (n * Nat.pow 10 e.toNat, 1) else (n, Nat.pow 10 (-e).toNat)
  let p := point.1 * r.den
  let low := r.low * point.2
  let high := r.high * point.2
  if r.closed then decide (low ≤ p ∧ p ≤ high) else decide (low < p ∧ p < high)

/-- The better neighbour of the value with `count` digits, if one rounds to it. -/
def Rounding.candidate? (r : Rounding) (count : Nat) : Option Decimal10 :=
  let e := places r.value r.den - (count : Int)
  let grid :=
    if 0 ≤ e then (r.value, r.den * Nat.pow 10 e.toNat)
    else (r.value * Nat.pow 10 (-e).toNat, r.den)
  let below := grid.1 / grid.2
  let nearer := roundDiv grid.1 grid.2
  let farther := if nearer = below then below + 1 else below
  if r.holds nearer e then some ⟨nearer, e⟩
  else if r.holds farther e then some ⟨farther, e⟩
  else none

/-- The number without trailing zeros in its digits. -/
def Decimal10.normalise (fuel : Nat) (d : Decimal10) : Decimal10 :=
  match fuel with
  | 0 => d
  | fuel + 1 =>
    if d.digits ≠ 0 ∧ d.digits % 10 = 0 then normalise fuel ⟨d.digits / 10, d.exponent + 1⟩ else d

/-- Seventeen digits are always enough. -/
def shortest (x : Binary64) : Decimal10 :=
  if x.isZero then ⟨0, 0⟩
  else
    let r := x.rounding
    let found := (List.range 17).findSome? fun i => r.candidate? (i + 1)
    (found.getD ⟨roundDiv r.value r.den, 0⟩).normalise 18

end Decimal
end Facsimile

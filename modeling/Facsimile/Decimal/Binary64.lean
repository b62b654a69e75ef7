/-!
# Binary floating point

Finite numbers with a 53 bit significand, and rounding of a ratio to the nearest of them.  Products
and quotients are rounded once from their exact value.
-/

namespace Facsimile
namespace Decimal

/-- The number `± significand · 2 ^ exponent`.  Canonical values have a significand below `2 ^ 53`
and an exponent from `-1074` to `971`, and a significand below `2 ^ 52` only at exponent `-1074`. -/
structure Binary64 where
  negative : Bool
  significand : Nat
  exponent : Int
  deriving DecidableEq, Repr

namespace Binary64

def leastExponent : Int := -1074
def greatestExponent : Int := 971

def zero (negative : Bool) : Binary64 := ⟨negative, 0, leastExponent⟩

def isZero (x : Binary64) : Bool := x.significand == 0

end Binary64

/-- The quotient rounded to the nearest integer, a half to the even neighbour. -/
def roundDiv (num den : Nat) : Nat :=
  let q := num / den
  let r := num % den
  if den < 2 * r ∨ (2 * r = den ∧ q % 2 = 1) then q + 1 else q

/-- `num / den · 2 ^ shift` as a ratio of natural numbers. -/
def scaled (num den : Nat) (shift : Int) : Nat × Nat :=
  if 0 ≤ shift then (num * Nat.pow 2 shift.toNat, den) else (num, den * Nat.pow 2 (-shift).toNat)

/-- The number nearest to `num / den · 2 ^ shift`, if one is in range. -/
def nearest? (num den : Nat) (shift : Int) : Option Binary64 :=
  if num = 0 then some (.zero false)
  else
    -- The quotient by `2 ^ low` lies between `2 ^ 52` and `2 ^ 54`.
    let low : Int := (Nat.log2 num : Int) - (Nat.log2 den : Int) - 53 + shift
    let wide := scaled num den (shift - low)
    let fitting := if wide.2 * Nat.pow 2 53 ≤ wide.1 then low + 1 else low
    let exponent := max fitting Binary64.leastExponent
    let ratio := scaled num den (shift - exponent)
    let significand := roundDiv ratio.1 ratio.2
    let rounded : Binary64 :=
      if significand = Nat.pow 2 53 then ⟨false, Nat.pow 2 52, exponent + 1⟩
      else ⟨false, significand, exponent⟩
    if Binary64.greatestExponent < rounded.exponent then none else some rounded

namespace Binary64

def mul? (x y : Binary64) : Option Binary64 :=
  nearest? (x.significand * y.significand) 1 (x.exponent + y.exponent)

def div? (x y : Binary64) : Option Binary64 :=
  nearest? x.significand y.significand (x.exponent - y.exponent)

def ofNat? (n : Nat) : Option Binary64 := nearest? n 1 0

end Binary64
end Decimal
end Facsimile

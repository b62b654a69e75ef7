import Facsimile.Decimal.Shortest
import Facsimile.Text.Digits

/-!
# JSON numbers

A number that is an integer of 64 bits, signed or unsigned, keeps its value.  Any other becomes a
binary floating point number: the leading digits that fit into 64 bits are converted and then scaled
by one power of ten, each with one rounding.
-/

namespace Facsimile
namespace Json

open Decimal (Binary64)

inductive Number where
  | integer (n : Int)
  | double (x : Binary64)
  deriving DecidableEq, Repr

structure NumberText where
  negative : Bool
  whole : List Char
  fraction : List Char
  /-- The digits of the exponent and whether it is negative. -/
  exponent : Option (Bool × List Char)
  hasFraction : Bool

/-- Appends digits to `n` as long as the result is below `2 ^ 64`, and counts those left over. -/
def appendDigits (n : Nat) : List Char → Nat × Nat
  | [] => (n, 0)
  | c :: cs =>
    if 10 * n + Text.digitValue c < Nat.pow 2 64 then appendDigits (10 * n + Text.digitValue c) cs
    else (n, cs.length + 1)

def greatestPower : Nat := 308

/-- The number nearest to a power of ten. -/
def powerOfTen? (k : Nat) : Option Binary64 := Decimal.Binary64.ofNat? (Nat.pow 10 k)

def timesTen? (x : Binary64) (k : Nat) : Option Binary64 := (powerOfTen? k).bind x.mul?

def overTen? (x : Binary64) (k : Nat) : Option Binary64 := (powerOfTen? k).bind x.div?

/-- `x · 10 ^ e` for `x` below `2 ^ 64`.  A power that is out of range below is taken in two steps,
of which the first is the smallest power in range; beyond two steps nothing is left. -/
def scaleTen? (x : Binary64) (e : Int) : Option Binary64 :=
  if x.isZero then some x
  else if (greatestPower : Int) < e then none
  else if 0 ≤ e then timesTen? x e.toNat
  else if -(greatestPower : Int) ≤ e then overTen? x (-e).toNat
  else if -2 * (greatestPower : Int) ≤ e then
    (overTen? x greatestPower).bind (overTen? · (-e - greatestPower).toNat)
  else some (.zero false)

/-- Exponents above this are not scaled by: the number is zero or out of range. -/
def greatestExponent : Nat := 2147483647

/-- The number that a text denotes; none if it is out of range. -/
def NumberText.value? (t : NumberText) : Option Number :=
  let (whole, dropped) := appendDigits 0 t.whole
  if dropped = 0 ∧ t.hasFraction = false ∧ t.exponent = none then
    if t.negative = false then some (.integer whole)
    else if 0 < whole ∧ whole ≤ Nat.pow 2 63 then some (.integer (-(whole : Int)))
    else (Decimal.Binary64.ofNat? whole).map fun x => .double { x with negative := true }
  else
    let (digits, unread) := appendDigits whole t.fraction
    let start : Int := (dropped : Int) - ((t.fraction.length - unread : Nat) : Int)
    let magnitude :=
      match t.exponent with
      | none => (Decimal.Binary64.ofNat? digits).bind (scaleTen? · start)
      | some (negative, ds) =>
        let e := Text.natOfDigits 10 ds
        if greatestExponent < e then
          if digits ≠ 0 ∧ negative = false then none else some (.zero false)
        else
          (Decimal.Binary64.ofNat? digits).bind
            (scaleTen? · (if negative then start - (e : Int) else start + (e : Int)))
    magnitude.map fun x => .double { x with negative := t.negative }

/-- The text of a decimal: up to sixteen places before the point and five zeros after it are written
out, beyond that an exponent is used. -/
def decimalText (d : Decimal.Decimal10) : String :=
  let ds := Nat.toDigits 10 d.digits
  let point : Int := (ds.length : Int) + d.exponent
  let zeros (n : Int) : List Char := List.replicate n.toNat '0'
  if 0 ≤ d.exponent ∧ point ≤ 16 then String.ofList (ds ++ zeros d.exponent ++ ['.', '0'])
  else if 0 < point ∧ point ≤ 16 then
    String.ofList (ds.take point.toNat ++ '.' :: ds.drop point.toNat)
  else if -5 < point ∧ point ≤ 0 then String.ofList ('0' :: '.' :: zeros (-point) ++ ds)
  else
    let mantissa :=
      match ds with
      | c :: [] => [c]
      | c :: cs => c :: '.' :: cs
      | [] => []
    let sign := if 0 < point then ['+'] else []
    String.ofList (mantissa ++ 'e' :: sign ++ (toString (point - 1)).toList)

def doubleText (x : Binary64) : String :=
  (if x.negative then "-" else "") ++ if x.isZero then "0.0" else decimalText (Decimal.shortest x)

def Number.text : Number → String
  | .integer n => toString n
  | .double x => doubleText x

end Json
end Facsimile

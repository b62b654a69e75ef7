import Facsimile.Decimal.Binary64
import Facsimile.Toml.Scan

/-!
# TOML numbers and points in time

Only the form of these values is checked, and that they are in range: integers have 64 bits, days
exist in the calendar, and a number is not too great for a binary floating point number.
-/

namespace Facsimile
namespace Toml

/-- Digits behind a digit, with single underscores between them. -/
def moreDigits (isDigit : Char → Bool) : Scan (List Char)
  | '_' :: c :: rest =>
    if isDigit c then (moreDigits isDigit rest).map fun (ds, after) => (c :: ds, after) else none
  | ['_'] => none
  | c :: rest =>
    if isDigit c then (moreDigits isDigit rest).map fun (ds, after) => (c :: ds, after)
    else some ([], c :: rest)
  | [] => some ([], [])

def digits (isDigit : Char → Bool) : Scan (List Char)
  | c :: rest =>
    if isDigit c then (moreDigits isDigit rest).map fun (ds, after) => (c :: ds, after) else none
  | [] => none

/-- Digits that do not start with a needless zero. -/
def wholeDigits : Scan (List Char)
  | '0' :: rest => some (['0'], rest)
  | s => digits Char.isDigit s

/-- A sign, if there is one, and whether it is a minus. -/
def sign : List Char → Bool × List Char
  | '-' :: rest => (true, rest)
  | '+' :: rest => (false, rest)
  | s => (false, s)

def isHexDigit (c : Char) : Bool := (Text.hexValue? c).isSome
def isOctalDigit (c : Char) : Bool := decide ('0' ≤ c ∧ c ≤ '7')
def isBinaryDigit (c : Char) : Bool := c == '0' || c == '1'

/-- Digits of an integer that may not exceed `2 ^ 63 - 1`. -/
def based (base : Nat) (isDigit : Char → Bool) (s : List Char) : Option (List Char) :=
  match digits isDigit s with
  | some (ds, rest) => if Text.natOfDigits base ds < Nat.pow 2 63 then some rest else none
  | none => none

/-- Whether `n · 10 ^ e` rounds to a number in range. -/
def inRange (n : Nat) (e : Int) : Bool :=
  if n = 0 then true
  else
    let places : Int := (Nat.toDigits 10 n).length + e
    if places ≤ 308 then true
    else if 309 < places then false
    else if 0 ≤ e then (Decimal.nearest? (n * Nat.pow 10 e.toNat) 1 0).isSome
    else (Decimal.nearest? n (Nat.pow 10 (-e).toNat) 0).isSome

def exponent : Scan Int
  | c :: rest =>
    if c = 'e' ∨ c = 'E' then
      let (negative, rest) := sign rest
      (digits Char.isDigit rest).map fun (ds, after) =>
        let n : Int := Text.natOfDigits 10 ds
        (if negative then -n else n, after)
    else none
  | [] => none

/-- A decimal number.  One that is too great is refused if it is positive. -/
def decimal (s : List Char) : Option (List Char) := do
  let (negative, s) := sign s
  let (whole, rest) ← wholeDigits s
  let bounded (n : Nat) (e : Int) (after : List Char) : Option (List Char) :=
    if negative || inRange n e then some after else none
  match rest with
  | '.' :: rest =>
    let (fraction, rest) ← digits Char.isDigit rest
    let n := Text.natOfDigits 10 (whole ++ fraction)
    let places : Int := fraction.length
    match rest with
    | c :: _ =>
      if c = 'e' ∨ c = 'E' then
        let (e, after) ← exponent rest
        bounded n (e - places) after
      else bounded n (-places) rest
    | [] => bounded n (-places) rest
  | c :: _ =>
    if c = 'e' ∨ c = 'E' then
      let (e, after) ← exponent rest
      bounded (Text.natOfDigits 10 whole) e after
    else if Text.natOfDigits 10 whole < Nat.pow 2 63 + negative.toNat then return rest
    else none
  | [] => if Text.natOfDigits 10 whole < Nat.pow 2 63 + negative.toNat then return rest else none

def special (s : List Char) : Option (List Char) :=
  match (sign s).2 with
  | 'i' :: 'n' :: 'f' :: rest => some rest
  | 'n' :: 'a' :: 'n' :: rest => some rest
  | _ => none

def number (s : List Char) : Option (List Char) :=
  match s with
  | '0' :: 'x' :: rest => based 16 isHexDigit rest
  | '0' :: 'o' :: rest => based 8 isOctalDigit rest
  | '0' :: 'b' :: rest => based 2 isBinaryDigit rest
  | _ => (special s).or (decimal s)

/-! ## Points in time -/

def twoDigits : Scan Nat
  | a :: b :: rest =>
    if a.isDigit && b.isDigit then some (10 * Text.digitValue a + Text.digitValue b, rest) else none
  | _ => none

def isLeapYear (year : Nat) : Bool := year % 4 == 0 && (year % 100 != 0 || year % 400 == 0)

def daysIn (year month : Nat) : Nat :=
  match month with
  | 2 => if isLeapYear year then 29 else 28
  | 4 | 6 | 9 | 11 => 30
  | _ => 31

def expect (c : Char) : List Char → Option (List Char)
  | d :: rest => if d = c then some rest else none
  | [] => none

def date (s : List Char) : Option (List Char) := do
  let (century, s) ← twoDigits s
  let (years, s) ← twoDigits s
  let (month, s) ← twoDigits (← expect '-' s)
  let (day, s) ← twoDigits (← expect '-' s)
  if 1 ≤ month ∧ month ≤ 12 ∧ 1 ≤ day ∧ day ≤ daysIn (100 * century + years) month then return s
  else none

def hoursMinutes (s : List Char) : Option (List Char) := do
  let (hour, s) ← twoDigits s
  let (minute, s) ← twoDigits (← expect ':' s)
  if hour ≤ 23 ∧ minute ≤ 59 then return s else none

/-- A time of day; the last second of a day may be a leap second. -/
def time (s : List Char) : Option (List Char) := do
  let (second, s) ← twoDigits (← expect ':' (← hoursMinutes s))
  if 60 < second then none
  match s with
  | '.' :: c :: rest => if c.isDigit then return rest.dropWhile Char.isDigit else return s
  | _ => return s

def offset (s : List Char) : List Char :=
  match s with
  | 'Z' :: rest => rest
  | 'z' :: rest => rest
  | '+' :: rest => (hoursMinutes rest).getD s
  | '-' :: rest => (hoursMinutes rest).getD s
  | _ => s

def timeAfterDate (s : List Char) : List Char :=
  match s with
  | c :: rest =>
    if c = 'T' ∨ c = 't' ∨ c = ' ' then
      match time rest with
      | some after => offset after
      | none => s
    else s
  | [] => []

def moment (s : List Char) : Option (List Char) := ((date s).map timeAfterDate).or (time s)

def scalar (s : List Char) : Option (List Char) := (moment s).or (number s)

end Toml
end Facsimile

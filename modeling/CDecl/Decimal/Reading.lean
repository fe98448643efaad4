/-!
# Reading decimal numbers

A decimal numeral is read in two roundings: its digits become a whole number below `2 ^ 64`, then
one multiplication or division by a power of ten places the point.  Digits that no longer fit are
dropped; a dropped digit before the point still counts towards the power of ten.
-/

namespace CDecl.Decimal

/-- The largest whole number that digits are collected into. -/
def significandLimit : Nat := UInt64.size - 1

/-- Appends digits to a significand for as long as the result fits, and counts those taken. -/
def collect (significand taken : Nat) : List Char → Nat × Nat
  | [] => (significand, taken)
  | c :: rest =>
      let next := significand * 10 + (c.toNat - '0'.toNat)
      if next ≤ significandLimit then collect next (taken + 1) rest else (significand, taken)

/-- The binary64 number nearest to a power of ten. -/
def powerOfTen (n : Nat) : Float := Float.ofScientific 1 false n

/-- Places the point of a number below one: divides by at most `10 ^ 308` at a time, until nothing
is left of the exponent or of the number.  Each round takes 308 off the exponent. -/
def divideByPower (x : Float) (power : Nat) : Float :=
  if power ≤ 308 then x / powerOfTen power
  else if x == 0.0 then x
  else divideByPower (x / powerOfTen 308) (power - 308)
termination_by power
decreasing_by omega

/-- A significand times a power of ten, or `none` when the result is beyond every finite number. -/
def scale? (significand : Nat) (exponent : Int) : Option Float :=
  let x := (UInt64.ofNat significand).toFloat
  if exponent < 0 then some (divideByPower x exponent.natAbs)
  else if exponent ≤ 308 then
    let y := x * powerOfTen exponent.toNat
    if y.isInf then none else some y
  else if x == 0.0 then some x
  else none

/-- A numeral taken apart: the digits before the point, those after it, and the exponent. -/
structure Numeral where
  negative : Bool
  whole : List Char
  fraction : List Char
  exponent : Int

/-- The value of a numeral. -/
def Numeral.toFloat? (n : Numeral) : Option Float :=
  let (head, taken) := collect 0 0 n.whole
  let (significand, places) := collect head 0 n.fraction
  let point : Int := (n.whole.length : Int) - taken - places
  (scale? significand (point + n.exponent)).map fun x => if n.negative then -x else x

end CDecl.Decimal

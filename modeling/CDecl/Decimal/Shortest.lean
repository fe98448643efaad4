/-!
# The shortest decimal of a binary64 number

A positive finite number is `mantissa * 2 ^ exponent`.  The reals that round to it form an
interval around it, which holds its ends exactly when the mantissa is even.  The shortest decimal
is the point of the coarsest decimal grid that lies in this interval; of two such points it is the
nearer one, and a `Tie` decides between two points at the same distance.  All arithmetic is exact.
-/

namespace CDecl.Decimal

/-- Which of two equally near decimals is taken. -/
inductive Tie where
  | up
  | even
deriving DecidableEq

/-- A positive decimal: its significant digits, none of them a trailing zero, and the power of ten
of the first digit. -/
structure Digits where
  digits : List Char
  leading : Int
deriving DecidableEq

/-- A positive binary number `mantissa * 2 ^ exponent`.  `narrowBelow` tells that the next smaller
number is only half as far away as the next larger one. -/
structure Binary where
  mantissa : Nat
  exponent : Int
  narrowBelow : Bool
deriving DecidableEq

/-- The magnitude of a finite binary64 number, given by its bits. -/
def Binary.ofBits (bits : UInt64) : Binary :=
  let fraction := (bits &&& 0xFFFFFFFFFFFFF).toNat
  let field := ((bits >>> 52) &&& 0x7FF).toNat
  if field = 0 then ⟨fraction, -1074, false⟩
  else ⟨fraction + 0x10000000000000, (field : Int) - 1075, fraction = 0 && field > 1⟩

/-- The power of ten of the leading digit of `num / den`. -/
def leadingExponent (num den : Nat) : Int :=
  if den ≤ num then ((Nat.toDigits 10 (num / den)).length : Int) - 1
  else
    let below := (Nat.toDigits 10 (den / num)).length
    if den ≤ num * Nat.pow 10 (below - 1) then 1 - (below : Int) else -(below : Int)

/-- The interval of the reals that round to a number, its ends and the number itself given over one
denominator. -/
structure Interval where
  low : Nat
  value : Nat
  high : Nat
  denominator : Nat
  closed : Bool

/-- The rounding interval of a binary number. -/
def Binary.interval (b : Binary) : Interval :=
  let scale := Nat.pow 2 b.exponent.toNat
  { low := (4 * b.mantissa - if b.narrowBelow then 1 else 2) * scale
    value := 4 * b.mantissa * scale
    high := (4 * b.mantissa + 2) * scale
    denominator := 4 * Nat.pow 2 (-b.exponent).toNat
    closed := b.mantissa % 2 == 0 }

/-- An interval stretched by a power of ten, so that a decimal grid becomes the whole numbers. -/
def Interval.shift (i : Interval) (power : Int) : Interval :=
  let up := Nat.pow 10 power.toNat
  { i with
    low := i.low * up
    value := i.value * up
    high := i.high * up
    denominator := i.denominator * Nat.pow 10 (-power).toNat }

/-- Whether a whole number lies in the interval. -/
def Interval.holds (i : Interval) (n : Nat) : Bool :=
  let point := n * i.denominator
  if i.closed then i.low ≤ point && point ≤ i.high else i.low < point && point < i.high

/-- The whole number nearest to the interval's value among its two neighbours, if one of them lies
in the interval. -/
def Interval.nearest? (i : Interval) (tie : Tie) : Option Nat :=
  let below := i.value / i.denominator
  let twice := 2 * (i.value % i.denominator)
  let takeUpper : Bool := match tie with
    | .up => i.denominator ≤ twice
    | .even => i.denominator < twice || (i.denominator = twice && below % 2 == 1)
  match i.holds below, i.holds (below + 1) with
  | true, true => some (if takeUpper then below + 1 else below)
  | true, false => some below
  | false, true => some (below + 1)
  | false, false => none

/-- Drops the zeros at the end of a digit list. -/
def dropTrailingZeros (digits : List Char) : List Char :=
  (digits.reverse.dropWhile (· == '0')).reverse

/-- A whole number read on the grid whose unit is ten to the power `unit`. -/
def Digits.ofGrid (n : Nat) (unit : Int) : Digits :=
  let digits := Nat.toDigits 10 n
  ⟨dropTrailingZeros digits, unit + digits.length - 1⟩

/-- The shortest decimal that rounds to a positive binary number.  Grids of one to seventeen digits
are tried, and the last of them always has a point in the interval. -/
def shortest (b : Binary) (tie : Tie) : Digits :=
  let i := b.interval
  let leading := leadingExponent i.value i.denominator
  let found := (List.range 17).findSome? fun (extra : Nat) =>
    ((i.shift (extra - leading)).nearest? tie).map (Digits.ofGrid · (leading - extra))
  found.getD ⟨[], 0⟩

end CDecl.Decimal

import CDecl.Decimal.Shortest

/-!
# Written forms of binary64 numbers

A `Format` fixes what the shortest digits leave open: which magnitudes are written with a decimal
point alone and which with a power of ten, whether a positive exponent has a sign, and how a tie
between two shortest decimals goes.
A number without a fraction keeps `.0`, unless it is written with a power of ten.
-/

namespace CDecl.Decimal

/-- Numbers whose leading digit stands for a power of ten between `least` and `greatest` are
written without an exponent. -/
structure Format where
  least : Int
  greatest : Int
  plusSign : Bool
  tie : Tie

/-- The digits of a number written with a decimal point. -/
def positional (d : Digits) : String :=
  let count := d.digits.length
  if d.leading < 0 then
    "0." ++ String.ofList (List.replicate (-d.leading - 1).toNat '0' ++ d.digits)
  else
    let whole := d.leading.toNat + 1
    if count ≤ whole then
      String.ofList (d.digits ++ List.replicate (whole - count) '0') ++ ".0"
    else
      String.ofList (d.digits.take whole) ++ "." ++ String.ofList (d.digits.drop whole)

/-- The digits of a number written with one digit before the point and a power of ten. -/
def scientific (plusSign : Bool) (d : Digits) : String :=
  let fraction := d.digits.drop 1
  String.ofList (d.digits.take 1) ++
    (if fraction.isEmpty then "" else "." ++ String.ofList fraction) ++
    (if plusSign && d.leading ≥ 0 then "e+" else "e") ++ toString d.leading

/-- The text of a positive finite number. -/
def Format.digits (f : Format) (d : Digits) : String :=
  if f.least ≤ d.leading ∧ d.leading ≤ f.greatest then positional d
  else scientific f.plusSign d

/-- The text of any number; zero keeps its sign. -/
def Format.text (f : Format) (x : Float) : String :=
  if x.isNaN then "NaN"
  else
    let bits := x.toBits
    let sign := if bits >>> 63 == 1 then "-" else ""
    if x.isInf then sign ++ "inf"
    else
      let b := Binary.ofBits bits
      sign ++ if b.mantissa = 0 then "0.0" else f.digits (shortest b f.tie)

end CDecl.Decimal

import Intake.Number.Shortest

/-!
# The written form of a double

A double is written with its shortest digits.  Where the point goes and whether an exponent is
used is a choice of the format, made by one record.

Main results:

- {lit}`DoubleLayout` holds the choices; {lit}`DoubleLayout.json` and {lit}`DoubleLayout.plain`
  are the two formats in use.
- Definition {lit}`DoubleLayout.write` writes a finite double, {lit}`DoubleLayout.writeBinary64`
  any double.
-/

namespace Intake

/-- The choices of a written form. -/
structure DoubleLayout where
  /-- Which of two equally near shortest decimals is written. -/
  tie : Tie
  /-- The exponents of the first digit that are written without an exponent: from the first
  bound on and below the second; without bounds all are. -/
  positional : Option (Int × Int)
  /-- Whether a whole number keeps a point and a zero. -/
  keepsPoint : Bool

namespace DoubleLayout

/-- The form in a JSON text: positional from {lit}`10 ^ -5` and below {lit}`10 ^ 16`, always with
a point, a tie going to the even digit. -/
def json : DoubleLayout :=
  ⟨.toEven, some (-5, 16), true⟩

/-- The form in messages and in SQL: never an exponent, no needless point, a tie going up. -/
def plain : DoubleLayout :=
  ⟨.up, none, false⟩

/-- The digits without the zeros at their end. -/
def dropZeros (digits : List Char) : List Char :=
  (digits.reverse.dropWhile (· = '0')).reverse

/-- The digits with a point such that the first digit counts {lit}`10 ^ first`. -/
def positionalForm (layout : DoubleLayout) (digits : List Char) (first : Int) : List Char :=
  let tail := if layout.keepsPoint then ['.', '0'] else []
  if first < 0 then
    ['0', '.'] ++ List.replicate (-first - 1).toNat '0' ++ digits
  else
    let whole := first.toNat + 1
    if digits.length ≤ whole then
      digits ++ List.replicate (whole - digits.length) '0' ++ tail
    else digits.take whole ++ ['.'] ++ digits.drop whole

/-- The digits with a point after the first one, if there are more, and a signed exponent. -/
def exponentForm (digits : List Char) (first : Int) : List Char :=
  let fraction :=
    match digits.drop 1 with
    | [] => []
    | rest => '.' :: rest
  let sign := if first < 0 then '-' else '+'
  digits.take 1 ++ fraction ++ ['e', sign] ++ Nat.toDigits 10 first.natAbs

/-- The digits of a shortest decimal in the form that the layout asks for. -/
def decimalForm (layout : DoubleLayout) (d : Decimal) : List Char :=
  let all := Nat.toDigits 10 d.coefficient
  let digits := dropZeros all
  let first := d.exponent + (all.length : Int) - 1
  match layout.positional with
  | none => layout.positionalForm digits first
  | some (low, high) =>
    if low ≤ first ∧ first < high then layout.positionalForm digits first
    else exponentForm digits first

/-- The written form of a finite double. -/
def write (layout : DoubleLayout) (x : Double) : String :=
  let magnitude :=
    if x.units = 0 then layout.positionalForm ['0'] 0
    else layout.decimalForm (shortest layout.tie x.units)
  String.ofList (if x.negative then '-' :: magnitude else magnitude)

/-- The written form of any double. -/
def writeBinary64 (layout : DoubleLayout) : Binary64 → String
  | .finite x => layout.write x
  | .infinite false => "inf"
  | .infinite true => "-inf"
  | .nan => "NaN"

end DoubleLayout

end Intake

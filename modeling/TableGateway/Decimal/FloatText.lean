import TableGateway.Decimal.Integer
import TableGateway.Decimal.Shortest

/-!
# Layouts of floating-point numbers

A layout says how the shortest decimal of a number is written down: which magnitudes are written
with all their places and which with a power of ten, and whether whole numbers end in `.0`.
-/

namespace TableGateway.Decimal

/-- How a finite floating-point number is written. -/
structure FloatLayout where
  /-- Which of two equally near shortest decimals is written. -/
  tie : TieRule
  /-- Whether a number whose leading digit has this decimal exponent is written with all its
  places; otherwise it is written as one digit, a fraction and a power of ten. -/
  positional : Int → Bool
  /-- What follows a whole number that is written with all its places. -/
  wholeEnding : String

/-- The decimal exponent of the leading digit. -/
def leadingExponent (d : Decimal) : Int := d.exponent + (digits d.coefficient).length - 1

/-- All places of a decimal: zeros fill up to the point on either side. -/
def positionalText (wholeEnding : String) (d : Decimal) : String :=
  let run := digits d.coefficient
  match d.exponent with
  | .ofNat k => String.ofList (run ++ List.replicate k '0') ++ wholeEnding
  | .negSucc k =>
    let places := k + 1
    let run := List.replicate (places + 1 - run.length) '0' ++ run
    String.ofList (run.take (run.length - places)) ++ "."
      ++ String.ofList (run.drop (run.length - places))

/-- One digit, the rest as its fraction, and a power of ten that always has a sign. -/
def scientificText (d : Decimal) : String :=
  let run := digits d.coefficient
  let fraction := if run.length = 1 then "" else "." ++ String.ofList run.tail
  let exponent := d.leadingExponent
  String.ofList (run.take 1) ++ fraction ++ "e" ++ (if exponent < 0 then "-" else "+")
    ++ natText exponent.natAbs

/-- The text of a finite number; zero keeps its sign. -/
def FloatLayout.text (layout : FloatLayout) (x : Binary64) : String :=
  let d := shortest layout.tie x
  (if x.negative then "-" else "")
    ++ if layout.positional d.leadingExponent then positionalText layout.wholeEnding d
       else scientificText d

end TableGateway.Decimal

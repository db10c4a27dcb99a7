/-!
# Binary floating-point numbers, exactly

A finite 64-bit floating-point number is a dyadic fraction: a natural number times a power of two,
with a sign. Everything that this library writes or decides about such a number goes through this
form, in integer arithmetic.
-/

namespace TableGateway

/-- The number `± significand · 2 ^ exponent`. The sign is kept apart so that zero has one too. -/
structure Binary64 where
  negative : Bool
  significand : Nat
  exponent : Int
  deriving DecidableEq, Repr

namespace Binary64

/-- Number of stored bits of the significand. -/
def fractionBits : Nat := 52

/-- Number of bits of the stored exponent. -/
def exponentBits : Nat := 11

/-- The exponent of the least significant bit of the smallest numbers. -/
def leastExponent : Int := -1074

/-- The exact value of a finite number; none for infinities and the not-a-number. A stored
exponent of zero marks numbers without the implicit leading bit, a full one the non-finite. -/
def ofFloat? (x : Float) : Option Binary64 :=
  let bits := x.toBits.toNat
  let fraction := bits % (1 <<< fractionBits)
  let stored := (bits >>> fractionBits) % (1 <<< exponentBits)
  let negative := bits >>> (fractionBits + exponentBits) = 1
  if stored + 1 = 1 <<< exponentBits then none
  else if stored = 0 then some ⟨negative, fraction, leastExponent⟩
  else some ⟨negative, (1 <<< fractionBits) + fraction, leastExponent + (stored - 1 : Nat)⟩

/-- The integer that a number is, if it has no fractional part. -/
def toInt? (x : Binary64) : Option Int :=
  let signed (n : Nat) : Int := if x.negative then -(n : Int) else n
  match x.exponent with
  | .ofNat k => some (signed (x.significand <<< k))
  | .negSucc k =>
    if x.significand % (1 <<< (k + 1)) = 0 then some (signed (x.significand >>> (k + 1))) else none

end Binary64

end TableGateway

/-! # Rounding exact quotients

A quotient of natural numbers rounded to the nearest integer, a half going to
the even neighbour. All inexact arithmetic of the library is this one rounding;
the powers that scale its operands are here as well.
-/

namespace Stencil

/-- The power of ten with an exponent, one when the exponent is negative: a scale goes into the
    numerator or into the denominator, and is one in the other. -/
def tenTo (exponent : Int) : Nat := Nat.pow 10 exponent.toNat

/-- The power of two with an exponent, one when the exponent is negative. -/
def twoTo (exponent : Int) : Nat := Nat.pow 2 exponent.toNat

/-- `num / den` to the nearest integer, a half to the even one. -/
def roundQuotient (num den : Nat) : Nat :=
  let q := num / den
  let r := num % den
  if 2 * r < den then q
  else if den < 2 * r then q + 1
  else if q % 2 = 0 then q else q + 1

end Stencil

import Stencil.Number.Digits
import Stencil.Number.Rounding

/-! # Binary floating point

Floating-point numbers as exact values `± m · 2^e` with the sign of zero kept,
and the operations the library needs, each defined as the exact result rounded
once. Equality of the type is identity of the number: it tells the two zeros
apart. Numeric comparison is a function of its own.
-/

namespace Stencil

inductive Binary64 where
  /-- The number `± mantissa · 2^exponent`. -/
  | finite (negative : Bool) (mantissa : Nat) (exponent : Int)
  /-- The infinity of a sign. -/
  | infinity (negative : Bool)
  /-- Not a number. -/
  | nan
  deriving DecidableEq, Repr, Inhabited

/-- The width of the mantissa and the range of the exponent of a binary format. -/
structure BinaryFormat where
  /-- Bits of the mantissa. -/
  bits : Nat
  /-- The least exponent of the last bit. -/
  minExponent : Int
  /-- The greatest exponent of the last bit. -/
  maxExponent : Int

def BinaryFormat.double : BinaryFormat := ⟨53, -1074, 971⟩

def BinaryFormat.single : BinaryFormat := ⟨24, -149, 104⟩

namespace Binary64

/-- A number as the quotient of two natural numbers, for its magnitude. -/
def ratio (mantissa : Nat) (exponent : Int) : Nat × Nat :=
  (mantissa * twoTo exponent, twoTo (-exponent))

/-- The number of a format nearest to `± num / den`, ties to the even mantissa. What is out of
    range is an infinity. -/
def ofRatioIn (format : BinaryFormat) (negative : Bool) (num den : Nat) : Binary64 :=
  if num = 0 then finite negative 0 format.minExponent
  else
    let estimate : Int := (num.log2 : Int) - den.log2 - format.bits
    let low := max estimate format.minExponent
    let scaled (e : Int) : Nat × Nat := (num * twoTo (-e), den * twoTo e)
    let (n, d) := scaled low
    let exponent := if n / d < twoTo format.bits then low else low + 1
    let (n, d) := scaled exponent
    let mantissa := roundQuotient n d
    let (mantissa, exponent) :=
      if mantissa = twoTo format.bits then (twoTo (format.bits - 1), exponent + 1)
      else (mantissa, exponent)
    if exponent > format.maxExponent then infinity negative
    else finite negative mantissa exponent

/-- The number nearest to `± num / den`. -/
def ofRatio (negative : Bool) (num den : Nat) : Binary64 :=
  ofRatioIn .double negative num den

def zero (negative : Bool) : Binary64 := finite negative 0 (-1074)

/-- The number nearest to `± digits · 10^exponent`. Exponents far out of range are decided
    without computing the power. -/
def ofDecimal (negative : Bool) (digits : Nat) (exponent : Int) : Binary64 :=
  let places : Int := (natText digits).length + exponent
  if digits = 0 then zero negative
  else if places > 400 then infinity negative
  else if places < -400 then zero negative
  else ofRatio negative (digits * tenTo exponent) (tenTo (-exponent))

/-- The number nearest to an integer; none when the integer is out of range. -/
def ofInt? (i : Int) : Option Binary64 :=
  match ofRatio (i < 0) i.natAbs 1 with
  | infinity _ => none
  | x => some x

/-- The number nearest to this one in single precision. -/
def toSingle : Binary64 → Binary64
  | finite negative m e =>
      let (n, d) := ratio m e
      match ofRatioIn .single negative n d with
      | finite s m e => let (n, d) := ratio m e; ofRatio s n d
      | x => x
  | x => x

/-- Whether the sign bit is set; that of a NaN counts as clear. -/
def isNegative : Binary64 → Bool
  | finite s _ _ => s
  | infinity s => s
  | nan => false

def isZero : Binary64 → Bool
  | finite _ m _ => m = 0
  | _ => false

def neg : Binary64 → Binary64
  | finite s m e => finite (!s) m e
  | infinity s => infinity (!s)
  | nan => nan

/-- The number as an integer numerator over a natural denominator. -/
def toRatio? : Binary64 → Option (Int × Nat)
  | finite s m e =>
      let (n, d) := ratio m e
      some (if s then -(n : Int) else n, d)
  | _ => none

/-- The exact sum rounded. Opposite numbers add up to positive zero. -/
def add : Binary64 → Binary64 → Binary64
  | nan, _ => nan
  | _, nan => nan
  | infinity s, infinity t => if s = t then infinity s else nan
  | infinity s, _ => infinity s
  | _, infinity t => infinity t
  | finite s m e, finite t n f =>
      if m = 0 ∧ n = 0 then zero (s && t)
      else
        let low := min e f
        let a : Int := (m * twoTo (e - low) : Nat)
        let b : Int := (n * twoTo (f - low) : Nat)
        let sum := (if s then -a else a) + (if t then -b else b)
        let (num, den) := ratio sum.natAbs low
        ofRatio (sum < 0) num den

/-- The exact product rounded. -/
def mul : Binary64 → Binary64 → Binary64
  | nan, _ => nan
  | _, nan => nan
  | infinity s, infinity t => infinity (s != t)
  | infinity s, finite t m _ => if m = 0 then nan else infinity (s != t)
  | finite s m _, infinity t => if m = 0 then nan else infinity (s != t)
  | finite s m e, finite t n f =>
      let (num, den) := ratio (m * n) (e + f)
      ofRatio (s != t) num den

end Binary64

/-- A number that can be compared with every other one: a quotient or an infinity. -/
inductive Extended where
  /-- An integer over a positive natural number. -/
  | ratio (num : Int) (den : Nat)
  /-- The infinity of a sign. -/
  | infinity (negative : Bool)

namespace Extended

def order : Extended → Extended → Ordering
  | ratio a b, ratio c d => compare (a * d) (c * b)
  | infinity s, infinity t => if s = t then .eq else if s then .lt else .gt
  | infinity s, _ => if s then .lt else .gt
  | _, infinity t => if t then .gt else .lt

end Extended

/-- The number as a comparable one; a NaN is none. -/
def Binary64.extended? : Binary64 → Option Extended
  | .finite s m e =>
      let (n, d) := Binary64.ratio m e
      some (.ratio (if s then -(n : Int) else n) d)
  | .infinity s => some (.infinity s)
  | .nan => none

end Stencil

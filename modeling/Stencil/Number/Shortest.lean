import Stencil.Number.Binary64

/-! # Decimal digits of binary numbers

Three ways to choose decimal digits for an exact value: the fewest that read
back as the number, a fixed count of significant digits, and a fixed count of
places behind the point. None of them decides how the digits are laid out.
-/

namespace Stencil

/-- Decimal digits with a point behind the first `point` of them, so that the value is
    `0.d₁d₂… · 10^point`. There are no trailing zeros; no digits at all stand for a value that
    rounded to nothing, and zero itself is the digit `0` with the point behind it. -/
structure Places where
  /-- The digits, most significant first. -/
  digits : Text
  /-- The number of digits in front of the point. -/
  point : Int
  deriving DecidableEq, Repr, Inhabited

namespace Places

def zero : Places := ⟨['0'], 1⟩

def stripZeros (ds : Text) : Text := (ds.reverse.dropWhile (· == '0')).reverse

/-- The digits of `n` on the grid of `10^exponent`. -/
def ofGrid (n : Nat) (exponent : Int) : Places :=
  let ds := natText n
  ⟨stripZeros ds, ds.length + exponent⟩

/-- How often a value below one is multiplied by ten until it is at least one. -/
def leadingZeros (num den : Nat) : Nat :=
  if _h : num = 0 ∨ den ≤ num then 0 else leadingZeros (num * 10) den + 1
termination_by den - num
decreasing_by omega

/-- The `p` with `10^(p-1) ≤ num / den < 10^p`. -/
def pointOf (num den : Nat) : Int :=
  if den ≤ num then ((natText (num / den)).length : Int) else 1 - (leadingZeros num den : Int)

/-- The two neighbours of `num / den` on the grid of `10^exponent`, and the denominator they are
    over: multiples of the grid are compared with the value as whole numbers. -/
def gridNeighbours (num den : Nat) (exponent : Int) : Nat × Nat :=
  let n := num * tenTo (-exponent)
  let d := den * tenTo exponent
  (n / d, n / d + 1)

/-- Whether `n · 10^exponent` lies between the bounds `low / den` and `high / den`, which count
    when `closed`. -/
def inInterval (low high den : Nat) (closed : Bool) (n : Nat) (exponent : Int) : Bool :=
  let x := n * tenTo exponent * den
  let s := tenTo (-exponent)
  if closed then low * s ≤ x && x ≤ high * s else low * s < x && x < high * s

/-- Tries grids from coarse to fine, `count` digits and more; of two neighbours that read back the
    nearer one is taken, and of two equally near ones the even one. -/
def shortestFrom (num den low high : Nat) (closed : Bool) (point : Int) :
    (more count : Nat) → Places
  | 0, count =>
      let exponent := point - count
      ofGrid (num * tenTo (-exponent) / (den * tenTo exponent)) exponent
  | more + 1, count =>
      let exponent := point - count
      let (down, up) := gridNeighbours num den exponent
      let okDown := inInterval low high den closed down exponent
      let okUp := inInterval low high den closed up exponent
      if okDown && okUp then
        ofGrid (roundQuotient (num * tenTo (-exponent)) (den * tenTo exponent)) exponent
      else if okDown then ofGrid down exponent
      else if okUp then ofGrid up exponent
      else shortestFrom num den low high closed point more (count + 1)

/-- The fewest digits that read back as `mantissa · 2^exponent`, and of those the nearest. The
    values that read back as a number lie half a unit of its last bit around it, a quarter below
    it at a power of two; the ends belong to the even mantissa. -/
def shortest (mantissa : Nat) (exponent : Int) : Places :=
  if mantissa = 0 then zero
  else
    let boundary := mantissa = twoTo 52 ∧ exponent > -1074
    let scale := twoTo (exponent - 2)
    let den := twoTo (2 - exponent)
    let value := 4 * mantissa * scale
    let low := (4 * mantissa - (if boundary then 1 else 2)) * scale
    let high := (4 * mantissa + 2) * scale
    shortestFrom value den low high (mantissa % 2 = 0) (pointOf value den) 17 1

def significant (mantissa : Nat) (exponent : Int) (count : Nat) : Places :=
  if mantissa = 0 then zero
  else
    let (num, den) := Binary64.ratio mantissa exponent
    let grid := pointOf num den - (min count 1100 : Nat)
    ofGrid (roundQuotient (num * tenTo (-grid)) (den * tenTo grid)) grid

/-- The value rounded to `count` places behind the point. No number has more than 1074 places, so
    further ones are all zero. -/
def fixed (mantissa : Nat) (exponent : Int) (count : Nat) : Places :=
  if mantissa = 0 then zero
  else
    let (num, den) := Binary64.ratio mantissa exponent
    let places := min count 1100
    let n := roundQuotient (num * tenTo places) den
    if n = 0 then ⟨[], -(count : Int)⟩ else ofGrid n (-(places : Int))

end Places

end Stencil

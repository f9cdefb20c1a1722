import Stencil.Number.Shortest

/-! # Laying out decimal digits

From chosen digits to the text of a number's magnitude: positional or with an
exponent, with or without trailing zeros and point. The sign is the caller's.
-/

namespace Stencil

/-- How the digits of a number are chosen and laid out. -/
inductive FloatForm where
  /-- The fewest digits that read back; an exponent below `10^-4` and from `10^16` on. -/
  | shortest
  /-- One digit, a point, the places of the precision, and an exponent. -/
  | scientific
  /-- The places of the precision behind the point, never an exponent. -/
  | positional
  /-- As many significant digits as the precision says, an exponent when the point would lie
      outside of them. -/
  | general
  deriving DecidableEq, Repr

/-- What a float's text depends on beside its value. -/
structure FloatStyle where
  form : FloatForm
  /-- Places or significant digits, as the form counts them. -/
  precision : Nat
  /-- Keep the point and the zeros behind it. -/
  alternate : Bool
  /-- Positional text always has a digit behind its point. -/
  pointZero : Bool
  /-- A negative number that rounds to zero loses its sign. -/
  dropNegativeZero : Bool
  /-- Capital letters for exponent, infinity and NaN. -/
  upper : Bool

/-- The style of a float shown for itself. -/
def FloatStyle.plain : FloatStyle :=
  ⟨.shortest, 0, false, true, false, false⟩

def padZeros (width : Int) (t : Text) : Text := t ++ List.replicate (width.toNat - t.length) '0'

/-- Digits around a point, with zeros up to the digit position `last`. -/
def Places.positionalText (p : Places) (last : Int) (keepPoint : Bool) : Text :=
  let whole := if p.point ≤ 0 then ['0'] else padZeros p.point (p.digits.take p.point.toNat)
  let fraction := List.replicate (-p.point).toNat '0' ++ p.digits.drop p.point.toNat
  let fraction := padZeros (last - p.point) fraction
  whole ++ (if fraction.isEmpty then if keepPoint then ['.'] else [] else '.' :: fraction)

/-- An exponent with its sign and at least two digits. -/
def exponentText (upper : Bool) (e : Int) : Text :=
  let ds := natText e.natAbs
  (if upper then 'E' else 'e') :: (if e < 0 then '-' else '+') ::
    (List.replicate (2 - ds.length) '0' ++ ds)

namespace FloatStyle

/-- The digits a style shows of a finite magnitude. -/
def places (style : FloatStyle) (mantissa : Nat) (exponent : Int) : Places :=
  match style.form with
  | .shortest => Places.shortest mantissa exponent
  | .scientific => Places.significant mantissa exponent (style.precision + 1)
  | .general => Places.significant mantissa exponent (max style.precision 1)
  | .positional => Places.fixed mantissa exponent style.precision

/-- Whether the digits are shown with an exponent. -/
def usesExponent (style : FloatStyle) (p : Places) : Bool :=
  match style.form with
  | .scientific => true
  | .positional => false
  | .general =>
      let count : Int := max style.precision 1
      p.point ≤ -4 || p.point > (if style.pointZero then count - 1 else count)
  | .shortest => p.point ≤ -4 || p.point > 16

/-- The digit position up to which a style writes zeros. -/
def lastPlace (style : FloatStyle) (p : Places) : Int :=
  match style.form with
  | .scientific => style.precision + 1
  | .positional => p.point + style.precision
  | .general => if style.alternate then max style.precision 1 else p.digits.length
  | .shortest => p.digits.length

def digitsText (style : FloatStyle) (p : Places) : Text :=
  let last := style.lastPlace p
  if style.usesExponent p then
    let text := Places.positionalText ⟨p.digits, 1⟩ last style.alternate
    text ++ exponentText style.upper (p.point - 1)
  else
    let least := if style.pointZero then p.point + 1 else p.point
    p.positionalText (max last least) style.alternate

/-- Whether a float is written with a minus sign, and the text of its magnitude. -/
def parts (style : FloatStyle) : Binary64 → Bool × Text
  | .nan => (false, if style.upper then "NAN" else "nan")
  | .infinity s => (s, if style.upper then "INF" else "inf")
  | .finite s m e =>
      let p := style.places m e
      let vanishes := p.digits.isEmpty || p.digits == ['0']
      (s && !(style.dropNegativeZero && vanishes), style.digitsText p)

end FloatStyle

/-- A float shown for itself: the fewest digits that read back. -/
def floatText (x : Binary64) : Text :=
  let (negative, t) := FloatStyle.plain.parts x
  if negative then '-' :: t else t

/-- A float shown without a point when it is whole. -/
def bareFloatText (x : Binary64) : Text :=
  let (negative, t) := { FloatStyle.plain with pointZero := false }.parts x
  if negative then '-' :: t else t

/-- A complex number shown for itself: the imaginary part alone when the real one is positive
    zero, otherwise both in parentheses with a sign between them. -/
def complexText (re im : Binary64) : Text :=
  if re.isZero && !re.isNegative then bareFloatText im ++ ['j']
  else
    let imText := bareFloatText im
    let imText := if imText.head? == some '-' then imText else '+' :: imText
    '(' :: bareFloatText re ++ imText ++ ['j', ')']

end Stencil

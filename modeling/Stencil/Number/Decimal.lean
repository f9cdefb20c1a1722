import Stencil.Number.Binary64

/-! # Decimal numbers

Decimal numbers with their scale kept: `1.5` and `1.50` are different numbers of
this type and equal in value. Reading is exact; writing is positional unless the
number is smaller than a millionth or has digits missing in front of its point.
-/

namespace Stencil

inductive Decimal where
  /-- The number `± coefficient · 10^exponent`. -/
  | finite (negative : Bool) (coefficient : Nat) (exponent : Int)
  /-- The infinity of a sign. -/
  | infinity (negative : Bool)
  /-- Not a number, perhaps with a code, perhaps one that signals. -/
  | nan (negative signaling : Bool) (code : Option Nat)
  deriving DecidableEq, Repr

namespace Decimal

def isNegative : Decimal → Bool
  | finite s _ _ => s
  | infinity s => s
  | nan s _ _ => s

def isFinite : Decimal → Bool
  | finite .. => true
  | _ => false

/-- The numeric value; a NaN has none. -/
def extended? : Decimal → Option Extended
  | finite s c e =>
      let n : Int := c * tenTo e
      some (.ratio (if s then -n else n) (tenTo (-e)))
  | infinity s => some (.infinity s)
  | nan .. => none

/-- The coefficient shown with a point behind its first `place` digits, zeros filled in. -/
def pointedText (coefficient : Nat) (place : Int) : Text :=
  let ds := natText coefficient
  if place ≤ 0 then '0' :: '.' :: (List.replicate (-place).toNat '0' ++ ds)
  else if place ≥ ds.length then ds ++ List.replicate (place.toNat - ds.length) '0'
  else ds.take place.toNat ++ '.' :: ds.drop place.toNat

/-- A magnitude with an exponent where its point is not that of the positional text. -/
def placedText (upper always : Bool) (coefficient : Nat) (exponent place : Int) : Text :=
  let digits : Int := (natText coefficient).length
  let shift := digits + exponent - place
  pointedText coefficient place ++
    (if shift ≠ 0 || always then
      (if upper then 'E' else 'e') :: (if shift < 0 then '-' else '+') :: natText shift.natAbs
    else [])

def isPositional (coefficient : Nat) (exponent : Int) : Bool :=
  exponent ≤ 0 && (natText coefficient).length + exponent > -6

def plainText (upper : Bool) (coefficient : Nat) (exponent : Int) : Text :=
  let digits : Int := (natText coefficient).length
  placedText upper false coefficient exponent
    (if isPositional coefficient exponent then digits + exponent else 1)

/-- The text of what is not finite, without its sign. -/
def specialText : Decimal → Text
  | infinity _ => "Infinity"
  | nan _ signaling code =>
      (if signaling then "sNaN" else "NaN") ++ (code.map natText).getD []
  | finite .. => []

def text (d : Decimal) : Text :=
  (if d.isNegative then ['-'] else []) ++
    match d with
    | finite _ c e => plainText true c e
    | d => d.specialText

/-- The coefficient rounded to a scale, ties to even. -/
def rescale (coefficient : Nat) (exponent target : Int) : Nat :=
  -- A zero is not scaled at all: the power may be far too large to be written out.
  if coefficient = 0 then 0
  else roundQuotient (coefficient * tenTo (exponent - target)) (tenTo (target - exponent))

/-- Coefficient and exponent with exactly `count` digits; zero stays what it is. -/
def roundTo (count : Nat) (coefficient : Nat) (exponent : Int) : Nat × Int :=
  if coefficient = 0 then (coefficient, exponent)
  else
    let target := exponent + (natText coefficient).length - count
    let c := rescale coefficient exponent target
    if (natText c).length > count then (rescale c target (target + 1), target + 1)
    else (c, target)

/-- The digits in front of a point and behind it. -/
def readCoefficient (t : Text) : Option (Nat × Int × Text) :=
  let (whole, rest) := spanDigits t
  let (fraction, rest) := match rest with
    | '.' :: more => spanDigits more
    | _ => ([], rest)
  if whole.isEmpty && fraction.isEmpty then none
  else some (digitsValue 10 (whole ++ fraction), -(fraction.length : Int), rest)

def readExponent : Text → Option Int
  | [] => some 0
  | c :: t =>
      if c = 'e' ∨ c = 'E' then
        let (negative, t) := splitSign t
        let (ds, rest) := spanDigits t
        if ds.isEmpty || !rest.isEmpty then none
        else
          let n : Int := digitsValue 10 ds
          some (if negative then -n else n)
      else none

def readSpecial (negative : Bool) (t : Text) : Option Decimal :=
  let t := t.map Char.toLower
  let code (rest : Text) : Option (Option Nat) :=
    let (ds, rest) := spanDigits rest
    if !rest.isEmpty then none
    else if ds.isEmpty then some none
    else
      let n := digitsValue 10 ds
      some (if n = 0 then none else some n)
  if t = ("inf" : Text) ∨ t = ("infinity" : Text) then some (infinity negative)
  else if Text.startsWith t "nan" then (code (t.drop 3)).map (nan negative false)
  else if Text.startsWith t "snan" then (code (t.drop 4)).map (nan negative true)
  else none

/-- The decimal number that text stands for. -/
def ofText? (t : Text) : Option Decimal :=
  let (negative, t) := splitSign ((Text.trim t).filter (· != '_'))
  match readCoefficient t with
  | some (c, e, rest) => (readExponent rest).map fun x => finite negative c (e + x)
  | none => readSpecial negative t

end Decimal

end Stencil

import Stencil.Number.Binary64

/-! # Parts of numerals

Runs of digits with single underscores between them, fractions and exponents:
what the numbers of literals and the numbers a user types have in common. A
float is read exactly and rounded once.
-/

namespace Stencil

namespace Numeral

/-- Digits of a class with single underscores between them, and the rest; the first one must be
    there. -/
def spanGrouped (digit : Char → Bool) : Text → Option (Text × Text)
  | [] => none
  | c :: t =>
      if !digit c then none
      else match t with
        | '_' :: u => (spanGrouped digit u).map fun r => (c :: r.1, r.2)
        | d :: u =>
            if digit d then (spanGrouped digit (d :: u)).map fun r => (c :: r.1, r.2)
            else some ([c], d :: u)
        | [] => some ([c], [])

/-- The value of an ASCII digit or letter as a digit. -/
def asciiDigitValue (c : Char) : Nat :=
  if c.isDigit then c.toNat - '0'.toNat else c.toLower.toNat - 'a'.toNat + 10

def numeralValue (base : Nat) (ds : Text) : Nat := digitsValue base (ds.map asciiDigitValue)

/-- The digits in front of a point, which may be missing there. -/
def readWhole : Text → Option (Text × Text)
  | '.' :: t => some ([], '.' :: t)
  | t => spanGrouped Char.isDigit t

/-- A point and the digits behind it; none of either is no fraction. -/
def readFraction (t : Text) : Option (Option Text × Text) :=
  match t with
  | '.' :: c :: u =>
      if c.isDigit then (spanGrouped Char.isDigit (c :: u)).map fun r => (some r.1, r.2)
      else some (some [], c :: u)
  | ['.'] => some (some [], [])
  | t => some (none, t)

/-- An exponent with its sign; a letter without digits is left alone. -/
def readExponentPart (t : Text) : Option (Option Int × Text) :=
  match t with
  | c :: u =>
      if c == 'e' || c == 'E' then
        let (negative, v) := splitSign u
        match v with
        | d :: _ =>
            if d.isDigit then
              (spanGrouped Char.isDigit v).map fun r =>
                let n : Int := numeralValue 10 r.1
                (some (if negative then -n else n), r.2)
            else some (none, t)
        | [] => some (none, t)
      else some (none, t)
  | [] => some (none, [])

/-- A text with the decimal digits of all scripts written in ASCII. -/
def asciiDigits (t : Text) : Text :=
  t.map fun c => match digitValue? c with
    | some d => Char.ofNat ('0'.toNat + d)
    | none => c

/-- The float that digits with a fraction and an exponent stand for. -/
def readDigits (negative : Bool) (t : Text) : Option Binary64 := do
  let (whole, t) ← readWhole t
  let (fraction, t) ← readFraction t
  let (exponent, t) ← readExponentPart t
  let digits := whole ++ fraction.getD []
  if digits.isEmpty || !t.isEmpty then none
  else
    some (Binary64.ofDecimal negative (numeralValue 10 digits)
      (exponent.getD 0 - ((fraction.getD []).length : Int)))

end Numeral

/-- The float that text stands for: digits, an infinity or a NaN, with a sign and outer blanks. -/
def readFloat? (t : Text) : Option Binary64 :=
  let (negative, t) := splitSign (Numeral.asciiDigits (Text.trim t))
  let name := t.map Char.toLower
  if name = ("inf" : Text) ∨ name = ("infinity" : Text) then some (.infinity negative)
  else if name = ("nan" : Text) then some .nan
  else Numeral.readDigits negative t

end Stencil

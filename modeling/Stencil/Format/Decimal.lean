import Stencil.Format.Number
import Stencil.Number.Decimal

/-! # Decimal numbers under a format spec

Decimal numbers read their specs twice. The strict way takes less than other
numbers do (widths in ASCII digits, commas only, no zero padding beside an
alignment) and holds counts to a limit of its own. What it refuses is read in a
loose way, which knows more flags and the digits of every script and fails when a
run of zeros or fill gets too long to be counted. Digits are rounded half to even
and their scale is kept.
-/

namespace Stencil.Format

inductive DecimalForm where
  /-- Plain; a precision counts significant digits. -/
  | general
  | scientific
  | positional
  | percent
  deriving DecidableEq, Repr

/-- A format spec as decimal numbers read it. -/
structure DecimalSpec where
  fill : Char
  align : Align
  /-- Zeros fill up the number, inside of its groups. -/
  zeroPadded : Bool
  sign : Option SignStyle
  dropNegativeZero : Bool
  /-- The point is written also when no digit is behind it. -/
  alternate : Bool
  width : Nat
  commas : Bool
  precision : Option Nat
  form : DecimalForm
  upper : Bool
  /-- The letter stands for the conventions of a place, which group no digits here. -/
  localized : Bool

/-- The largest width and precision of the strict way. -/
def decimalLimit : Nat := 999999999999999999

/-- The most digits that the loose way takes for a count. -/
def decimalCountDigits : Nat := 4300

namespace DecimalSpec

def isDigit (loose : Bool) (c : Char) : Bool := if loose then (digitValue? c).isSome else c.isDigit

def readCount (loose : Bool) (t : Text) : Option (Nat × Text) :=
  if loose then
    let (ds, rest) := spanDigits t
    if ds.length ≤ decimalCountDigits then some (digitsValue 10 ds, rest) else none
  else
    let ds := t.takeWhile Char.isDigit
    let n := digitsValue 10 (ds.map fun c => c.toNat - '0'.toNat)
    if n ≤ FormatSpec.maxCount then some (n, t.dropWhile Char.isDigit) else none

/-- The form and case a presentation letter stands for. -/
def formOf? (c : Char) : Option (DecimalForm × Bool) :=
  match c with
  | 'e' => some (.scientific, false)
  | 'E' => some (.scientific, true)
  | 'f' => some (.positional, false)
  | 'F' => some (.positional, true)
  | 'g' | 'n' => some (.general, false)
  | 'G' | 'N' => some (.general, true)
  | '%' => some (.percent, false)
  | _ => none

def readForm (loose commas : Bool) : Text → Option (DecimalForm × Bool)
  | [] => some (.general, true)
  | [c] =>
      if commas && (c == 'n' || c == 'N') then none
      else if loose && c == 'N' then none
      else formOf? c
  | _ => none

/-- A point and at least one digit behind it. Loosely, a zero stands there alone. -/
def readPrecision (loose : Bool) : Text → Option (Option Nat × Text)
  | '.' :: t =>
      if loose && t.head? == some '0' then some (some 0, t.drop 1)
      else if (t.head?.map (isDigit loose)).getD false then
        (readCount loose t).map fun r => (some r.1, r.2)
      else none
  | t => some (none, t)

/-- Reads a spec. In the strict way it ends at the first null character that is not its fill. -/
def read (loose : Bool) (spec : Text) : Option DecimalSpec := do
  let spec := if loose then spec else spec.take 1 ++ (spec.drop 1).takeWhile (· != '\x00')
  let (fill?, align?, t) := FormatSpec.splitAlign spec
  let (sign, t) := FormatSpec.splitSignStyle t
  let (dropNegativeZero, t) := if loose then FormatSpec.splitFlag 'z' t else (false, t)
  let (alternate, t) := if loose then FormatSpec.splitFlag '#' t else (false, t)
  let (zeroPadded, t) := FormatSpec.splitFlag '0' t
  if zeroPadded && align?.isSome then none
  if t.head? == some '0' then none
  let (width, t) ← readCount loose t
  let (commas, t) := FormatSpec.splitFlag ',' t
  let (precision, t) ← readPrecision loose t
  let (form, upper) ← readForm loose commas t
  some {
    fill := if zeroPadded then '0' else fill?.getD ' '
    align := if zeroPadded then .inside else align?.getD .right
    localized := t == ['n']
    zeroPadded, sign, dropNegativeZero, alternate, width, commas, precision, form, upper }

end DecimalSpec

/-- The digits of a finite number after rounding, and the place of its point; a form with an
    exponent has a place of its own. -/
def roundedDecimal (spec : DecimalSpec) (coefficient : Nat) (exponent : Int) : Nat × Int × Int :=
  let digits (c : Nat) : Int := (natText c).length
  match spec.form with
  | .general =>
      let (c, e) := match spec.precision with
        | some p =>
            if (natText coefficient).length > max p 1 then
              Decimal.roundTo (max p 1) coefficient exponent
            else (coefficient, exponent)
        | none => (coefficient, exponent)
      (c, e, if Decimal.isPositional c e then digits c + e else 1)
  | .scientific =>
      match spec.precision with
      | some p =>
          if coefficient = 0 then (0, exponent, 1 - (p : Int))
          else
            let (c, e) := Decimal.roundTo (p + 1) coefficient exponent
            (c, e, 1)
      | none => (coefficient, exponent, 1)
  | .positional | .percent =>
      let exponent := if spec.form = .percent then exponent + 2 else exponent
      let (c, e) := match spec.precision with
        | some p => (Decimal.rescale coefficient exponent (-(p : Int)), -(p : Int))
        | none => (coefficient, exponent)
      let e := if c = 0 ∧ e > 0 then 0 else e
      (c, e, digits c + e)

/-- A magnitude with a point behind its whole digits, whether or not it had one. -/
def withPoint (t : Text) : Text :=
  let (digits, rest) := cutDigits t
  if rest.head? == some '.' then t else digits ++ '.' :: rest

/-- The magnitude of a finite number: the digits before the point are grouped when the spec asks
    for it, with zeros up to `least` characters among them. -/
def decimalMagnitude (spec : DecimalSpec) (coefficient : Nat) (exponent place : Int)
    (signLength : Nat) : Text :=
  let text := Decimal.placedText spec.upper (spec.form = .scientific) coefficient exponent place
  let text := (if spec.alternate then withPoint text else text) ++
    (if spec.form = .percent then ['%'] else [])
  if spec.commas then
    let (digits, rest) := cutDigits text
    let least := if spec.zeroPadded then spec.width - signLength - rest.length else 0
    groupedDigits (some (3, ',')) least digits ++ rest
  else text

/-- The sign and the body of a number, not padded yet. A zero is one that is shown as zero. -/
def decimalParts (spec : DecimalSpec) : Decimal → Text × Text
  | .finite negative c e =>
      let (shown, e, place) := roundedDecimal spec c e
      let sign := signText spec.sign (negative && !(spec.dropNegativeZero && shown == 0))
      (sign, decimalMagnitude spec shown e place sign.length)
  | d =>
      (signText spec.sign d.isNegative,
        d.specialText ++ if spec.form = .percent then ['%'] else [])

/-- How many characters a number lacks of the width. -/
def decimalPadding (spec : DecimalSpec) (d : Decimal) : Nat :=
  let (sign, body) := decimalParts spec d
  spec.width - (sign.length + body.length)

/-- A number padded to the width. Zero padding turns into spaces where there are no digits. -/
def decimalUnder (spec : DecimalSpec) (d : Decimal) : Text :=
  let spec :=
    if spec.zeroPadded && !d.isFinite then { spec with fill := ' ', align := .right } else spec
  let missing := decimalPadding spec d
  let (sign, body) := decimalParts spec d
  let fill (n : Nat) : Text := List.replicate n spec.fill
  match spec.align with
  | .left => sign ++ body ++ fill missing
  | .right => fill missing ++ sign ++ body
  | .inside => sign ++ fill missing ++ body
  | .center => fill (missing / 2) ++ sign ++ body ++ fill (missing - missing / 2)

/-- How many zeros a number gets at its end when it is rounded to the precision. -/
def roundingZeros (spec : DecimalSpec) (coefficient : Nat) (exponent : Int) : Nat :=
  match spec.precision with
  | none => 0
  | some p =>
      if coefficient = 0 then 0
      else match spec.form with
        | .general => 0
        | .scientific => p + 1 - (natText coefficient).length
        | .positional => (exponent + p).toNat
        | .percent => (exponent + 2 + p).toNat

/-- How many zeros a number gets on the way from its digits to its point. -/
def placingZeros (coefficient : Nat) (place : Int) : Nat :=
  max (-place).toNat (place - (natText coefficient).length).toNat

/-- Whether the strict way refuses a number as too long. -/
def beyondLimits (spec : DecimalSpec) : Decimal → Bool
  | .finite _ c e =>
      spec.width > decimalLimit || spec.precision.getD 0 > decimalLimit ||
        (natText c).length + roundingZeros spec c e > decimalLimit + 1
  | _ => spec.width > decimalLimit

/-- Whether the padding of a number is written in one run. Zeros among digits come in groups. -/
def padsAtOnce (spec : DecimalSpec) (d : Decimal) : Bool :=
  !spec.zeroPadded || spec.localized || !d.isFinite

/-- Whether the loose way needs a run of zeros or fill that is too long to be counted. -/
def beyondCount (spec : DecimalSpec) (d : Decimal) : Bool :=
  (match d with
    | .finite _ c e =>
        roundingZeros spec c e > FormatSpec.maxCount ||
          let (shown, _, place) := roundedDecimal spec c e
          placingZeros shown place > FormatSpec.maxCount
    | _ => false) ||
  (padsAtOnce spec d && decimalPadding spec d > FormatSpec.maxCount)

def formatDecimal (d : Decimal) (spec : Text) : Except FormatFault Text :=
  match DecimalSpec.read false spec with
  | some spec =>
      if beyondLimits spec d then .error (.refused .decimalLimits) else .ok (decimalUnder spec d)
  | none =>
      match DecimalSpec.read true spec with
      | some spec =>
          if beyondCount spec d then .error (.outOfRange .noCount) else .ok (decimalUnder spec d)
      | none => .error (.refused .malformedDecimal)

end Stencil.Format

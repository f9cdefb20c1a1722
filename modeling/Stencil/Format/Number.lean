import Stencil.Format.Spec
import Stencil.Number.Layout

/-! # Integers, floats and complex numbers under a format spec

A number is cut into sign, lead (such as `0x`), whole digits and the rest; only
the whole digits are grouped, and zero padding inside of a number takes part in
the grouping.
-/

namespace Stencil.Format

/-- The text of a number in the parts that a layout treats differently. -/
structure NumberParts where
  negative : Bool
  /-- What stands between sign and digits. -/
  lead : Text
  /-- The digits in front of the point. -/
  digits : Text
  /-- The point and everything behind it. -/
  rest : Text

def signText (style : Option SignStyle) (negative : Bool) : Text :=
  if negative then ['-']
  else match style with
    | some .plus => ['+']
    | some .space => [' ']
    | _ => []

/-- Digits, given and returned least significant first, in groups of `size`, with zeros added
    until `least` characters are reached. A separator is never the last character. -/
def groupBackward (size : Nat) (separator : Char) (least : Nat) (digits : Text) : Text :=
  let len := min (max size 1) (max (max digits.length least) 1)
  let here := digits.take len ++ List.replicate (len - digits.length) '0'
  let later := digits.drop len
  if _h : later = [] ∧ least ≤ len then here
  else here ++ separator :: groupBackward size separator (least - len - 1) later
termination_by digits.length + least
decreasing_by
  simp only [later, List.drop_eq_nil_iff, List.length_drop, len] at *
  omega

/-- The digits of a number with its separators, and with zeros up to `least` characters. -/
def groupedDigits (grouping : Option (Nat × Char)) (least : Nat) (digits : Text) : Text :=
  match grouping with
  | some (size, separator) => (groupBackward size separator least digits.reverse).reverse
  | none => List.replicate (max least 1 - digits.length) '0' ++ digits

/-- A number under a spec, its digits grouped as given. -/
def layOut (spec : FormatSpec) (grouping : Option (Nat × Char)) (parts : NumberParts) : Text :=
  let sign := signText spec.sign parts.negative
  let fixed := sign.length + parts.lead.length + parts.rest.length
  let width := spec.width.getD 0
  let least := if spec.fill = '0' ∧ spec.align = .inside then width - fixed else 0
  let digits := if parts.digits.isEmpty then [] else groupedDigits grouping least parts.digits
  let missing := width - (fixed + digits.length)
  match spec.align with
  | .inside =>
      sign ++ parts.lead ++ List.replicate missing spec.fill ++ digits ++ parts.rest
  | _ => spec.pad (sign ++ parts.lead ++ digits ++ parts.rest)

/-- The group size and separator of a spec; digits of bases other than ten go in fours. -/
def groupingOf (spec : FormatSpec) : Option (Nat × Char) :=
  spec.grouping.map fun g =>
    (if spec.letter ∈ [some 'b', some 'o', some 'x', some 'X'] then 4 else 3, g.char)

/-- A text cut behind its leading ASCII digits. -/
def cutDigits (t : Text) : Text × Text := (t.takeWhile Char.isDigit, t.dropWhile Char.isDigit)

def maxPrecision : Nat := 2147483647

/-- The style of a float for a presentation letter, `bare` when plain numbers need no digit behind
    their point; none when the letter is not one of a float. -/
def floatStyle? (spec : FormatSpec) (bare : Bool) : Option FloatStyle :=
  let style (form : FloatForm) (standard : Nat) (pointZero upper : Bool) : FloatStyle :=
    ⟨form, spec.precision.getD standard, spec.alternate, pointZero, spec.dropNegativeZero, upper⟩
  match spec.letter with
  | none =>
      some (style (if spec.precision.isSome then .general else .shortest) 0 (!bare) false)
  | some 'e' => some (style .scientific 6 false false)
  | some 'E' => some (style .scientific 6 false true)
  | some 'f' | some '%' => some (style .positional 6 false false)
  | some 'F' => some (style .positional 6 false true)
  | some 'g' | some 'n' => some (style .general 6 false false)
  | some 'G' => some (style .general 6 false true)
  | some _ => none

def floatUnder (typeName : Text) (spec : FormatSpec) (x : Binary64) : Except FormatFault Text :=
  match floatStyle? spec false with
  | none => .error (.refused (.unknownLetter (spec.letter.getD '\x00') typeName))
  | some style =>
      if style.precision > maxPrecision then .error (.refused .precisionTooBig)
      else
        let percent := spec.letter = some '%'
        let x := if percent then x.mul (Binary64.ofRatio false 100 1) else x
        let (negative, text) := style.parts x
        let (digits, rest) := cutDigits (text ++ if percent then ['%'] else [])
        .ok (layOut spec (groupingOf spec) ⟨negative, [], digits, rest⟩)

/-- What `under` makes of a spec, read for a value of a type. -/
def underSpec (typeName : Text) (letter : Option Char) (align : Align)
    (under : FormatSpec → Except FormatFault Text) (spec : Text) : Except FormatFault Text :=
  match FormatSpec.read typeName letter align spec with
  | .error e => .error (.refused e)
  | .ok spec => under spec

def formatFloat (x : Binary64) (spec : Text) : Except FormatFault Text :=
  if spec.isEmpty then .ok (floatText x)
  else underSpec "float" none .right (floatUnder "float" · x) spec

/-- Why an integer is not the code of a character; one that fits into no machine word is not even
    compared. -/
def codeFault? (i : Int) : Option RangeFault :=
  if i < -0x8000000000000000 ∨ 0x8000000000000000 ≤ i then some .noMachineWord
  else if i < 0 ∨ 0x110000 ≤ i then some .noCharacter
  else none

/-- An integer as the character of its code. -/
def charUnder (spec : FormatSpec) (i : Int) : Except FormatFault Text :=
  if spec.sign.isSome then .error (.refused .signWithChar)
  else if spec.alternate then .error (.refused .alternateWithChar)
  else if let some reason := codeFault? i then .error (.outOfRange reason)
  else .ok (layOut spec (groupingOf spec) ⟨false, [], [], [Char.ofNat i.toNat]⟩)

/-- The base of an integer's presentation, its lead, and whether letters are capitals. -/
def integerBase? : Option Char → Option (Nat × Text × Bool)
  | some 'd' | some 'n' => some (10, [], false)
  | some 'b' => some (2, "0b", false)
  | some 'o' => some (8, "0o", false)
  | some 'x' => some (16, "0x", false)
  | some 'X' => some (16, "0X", true)
  | _ => none

/-- An integer under a spec that has been read. Float presentations show the nearest float. -/
def integerUnder (typeName : Text) (spec : FormatSpec) (i : Int) : Except FormatFault Text :=
  let refuse (e : SpecFault) : Except FormatFault Text := .error (.refused e)
  match integerBase? spec.letter, spec.letter with
  | none, some 'c' =>
      if spec.precision.isSome then refuse .precisionInInteger
      else if spec.dropNegativeZero then refuse .negativeZeroInInteger
      else charUnder spec i
  | some (base, lead, upper), _ =>
      if spec.precision.isSome then refuse .precisionInInteger
      else if spec.dropNegativeZero then refuse .negativeZeroInInteger
      else
        let digits := Nat.toDigits base i.natAbs
        let digits := if upper then digits.map Char.toUpper else digits
        .ok (layOut spec (groupingOf spec)
          ⟨i < 0, if spec.alternate then lead else [], digits, []⟩)
  | none, letter =>
      if letter ∈ [some 'e', some 'E', some 'f', some 'F', some 'g', some 'G', some '%'] then
        match Binary64.ofInt? i with
        | some x => floatUnder typeName spec x
        | none => .error (.outOfRange .noFloat)
      else refuse (.unknownLetter (letter.getD '\x00') typeName)

def formatInteger (typeName : Text) (i : Int) (spec : Text) : Except FormatFault Text :=
  underSpec typeName (some 'd') .right (integerUnder typeName · i) spec

/-- One part of a complex number, without padding. -/
def complexPart (spec : FormatSpec) (style : FloatStyle) (sign : Option SignStyle) (x : Binary64) :
    Text :=
  let (negative, text) := style.parts x
  let (digits, rest) := cutDigits text
  layOut { spec with sign := sign, width := none, align := .left } (groupingOf spec)
    ⟨negative, [], digits, rest⟩

/-- Both parts of a complex number, without padding. Parentheses enclose the plain form unless it
    has an imaginary part only. -/
def complexParts (spec : FormatSpec) (style : FloatStyle) (re im : Binary64) : Text :=
  let plain := spec.letter = none
  let onlyImaginary := plain && re.isZero && !re.isNegative
  let text :=
    if onlyImaginary then complexPart spec style spec.sign im ++ ['j']
    else complexPart spec style spec.sign re ++ complexPart spec style (some .plus) im ++ ['j']
  if plain && !onlyImaginary then '(' :: text ++ [')'] else text

/-- A complex number under a spec that has been read; padding goes around the whole. -/
def complexUnder (spec : FormatSpec) (re im : Binary64) : Except FormatFault Text :=
  match floatStyle? spec true, spec.letter with
  | some _, some '%' => .error (.refused (.unknownLetter '%' "complex"))
  | none, letter => .error (.refused (.unknownLetter (letter.getD '\x00') "complex"))
  | some style, _ =>
      if style.precision > maxPrecision then .error (.refused .precisionTooBig)
      else if spec.fill = '0' then .error (.refused .zeroPaddedComplex)
      else if spec.align = .inside then .error (.refused .insideComplex)
      else .ok (spec.pad (complexParts spec style re im))

def formatComplex (re im : Binary64) (spec : Text) : Except FormatFault Text :=
  if spec.isEmpty then .ok (complexText re im)
  else underSpec "complex" none .right (complexUnder · re im) spec

/-- Text under a spec that has been read: cut to the precision, then padded. -/
def textUnder (spec : FormatSpec) (t : Text) : Except FormatFault Text :=
  let refuse (e : SpecFault) : Except FormatFault Text := .error (.refused e)
  if spec.letter ≠ some 's' then refuse (.unknownLetter (spec.letter.getD '\x00') "str")
  else if spec.sign = some .space then refuse .spaceInText
  else if spec.sign.isSome then refuse .signInText
  else if spec.dropNegativeZero then refuse .negativeZeroInText
  else if spec.alternate then refuse .alternateInText
  else if spec.align = .inside then refuse .insideInText
  else
    .ok (spec.pad (match spec.precision with
      | some n => t.take n
      | none => t))

def formatText (t : Text) (spec : Text) : Except FormatFault Text :=
  if spec.isEmpty then .ok t
  else underSpec "str" (some 's') .left (textUnder · t) spec

end Stencil.Format

import Stencil.Number.Digits

/-! # Format specs

A format spec is a compressed record: fill and alignment, sign, flags, width,
grouping, precision and a presentation letter. This file has the record, its
reader, and the reasons for which a spec is refused. Reading a spec only fails
for what no kind of number or text accepts.
-/

namespace Stencil

/-- Where the padding goes. -/
inductive Align where
  | left | right | center
  /-- Between the sign and the digits. -/
  | inside
  deriving DecidableEq, Repr

/-- What is written in place of a minus sign when there is none. -/
inductive SignStyle where
  | minus | plus | space
  deriving DecidableEq, Repr

/-- The separator between groups of digits. -/
inductive Grouping where
  | comma | underscore
  deriving DecidableEq, Repr

structure FormatSpec where
  fill : Char
  align : Align
  /-- The sign style, when one was written. -/
  sign : Option SignStyle
  dropNegativeZero : Bool
  alternate : Bool
  width : Option Nat
  grouping : Option Grouping
  precision : Option Nat
  /-- The presentation letter; none when a number shows its plain form. -/
  letter : Option Char
  deriving Repr

/-- Why a value refuses a format spec. -/
inductive SpecFault where
  | tooManyDigits
  | missingPrecision
  | twoSeparators
  | separatorWith (separator : Grouping) (letter : Char)
  | malformed (spec typeName : Text)
  | unknownLetter (letter : Char) (typeName : Text)
  | spaceInText | signInText | negativeZeroInText | alternateInText | insideInText
  | precisionInInteger | negativeZeroInInteger | signWithChar | alternateWithChar
  | precisionTooBig
  | zeroPaddedComplex | insideComplex
  | malformedDecimal | decimalLimits
  /-- A value without presentation letters of its own. -/
  | unsupported (typeName : Text)
  deriving Repr

inductive RangeFault where
  /-- No character has the code. -/
  | noCharacter
  /-- The code does not fit into a machine word. -/
  | noMachineWord
  /-- No float is near. -/
  | noFloat
  /-- A run of characters is too long to be counted. -/
  | noCount
  deriving DecidableEq, Repr

inductive FormatFault where
  /-- The spec is refused. -/
  | refused (reason : SpecFault)
  /-- The value is outside of what the presentation can show. -/
  | outOfRange (reason : RangeFault)
  deriving Repr

def RangeFault.message : RangeFault → Text
  | noCharacter => "%c arg not in range(0x110000)"
  | noMachineWord => "Python int too large to convert to C long"
  | noFloat => "int too large to convert to float"
  | noCount => "cannot fit 'int' into an index-sized integer"

def Grouping.char : Grouping → Char
  | comma => ','
  | underscore => '_'

namespace SpecFault

/-- A letter in a message: itself when it is visible ASCII, else its code. -/
private def letterText (c : Char) : Text :=
  if 32 < c.toNat ∧ c.toNat < 128 then [c] else "\\x" ++ Nat.toDigits 16 c.toNat

def message : SpecFault → Text
  | tooManyDigits => "Too many decimal digits in format string"
  | missingPrecision => "Format specifier missing precision"
  | twoSeparators => "Cannot specify both ',' and '_'."
  | separatorWith s c => "Cannot specify '" ++ [s.char] ++ "' with '" ++ letterText c ++ "'."
  | malformed spec typeName =>
      "Invalid format specifier '" ++ spec ++ "' for object of type '" ++ typeName ++ "'"
  | unknownLetter c typeName =>
      "Unknown format code '" ++ letterText c ++ "' for object of type '" ++ typeName ++ "'"
  | spaceInText => "Space not allowed in string format specifier"
  | signInText => "Sign not allowed in string format specifier"
  | negativeZeroInText => "Negative zero coercion (z) not allowed in string format specifier"
  | alternateInText => "Alternate form (#) not allowed in string format specifier"
  | insideInText => "'=' alignment not allowed in string format specifier"
  | precisionInInteger => "Precision not allowed in integer format specifier"
  | negativeZeroInInteger =>
      "Negative zero coercion (z) not allowed in integer format specifier"
  | signWithChar => "Sign not allowed with integer format specifier 'c'"
  | alternateWithChar => "Alternate form (#) not allowed with integer format specifier 'c'"
  | precisionTooBig => "precision too big"
  | zeroPaddedComplex => "Zero padding is not allowed in complex format specifier"
  | insideComplex => "'=' alignment flag is not allowed in complex format specifier"
  | malformedDecimal => "invalid format string"
  | decimalLimits => "format specification exceeds internal limits of _decimal"
  | unsupported typeName => "unsupported format string passed to " ++ typeName ++ ".__format__"

end SpecFault

def Align.ofChar? : Char → Option Align
  | '<' => some .left
  | '>' => some .right
  | '=' => some .inside
  | '^' => some .center
  | _ => none

def SignStyle.ofChar? : Char → Option SignStyle
  | '-' => some .minus
  | '+' => some .plus
  | ' ' => some .space
  | _ => none

namespace FormatSpec

/-- The fill and the alignment at the start of a spec, and what is left. A character in front of
    an alignment character is a fill, whatever it is. -/
def splitAlign : Text → Option Char × Option Align × Text
  | c :: d :: t =>
      match Align.ofChar? d with
      | some a => (some c, some a, t)
      | none =>
          match Align.ofChar? c with
          | some a => (none, some a, d :: t)
          | none => (none, none, c :: d :: t)
  | [c] =>
      match Align.ofChar? c with
      | some a => (none, some a, [])
      | none => (none, none, [c])
  | [] => (none, none, [])

/-- The sign style in front of a text, if there is one. -/
def splitSignStyle : Text → Option SignStyle × Text
  | [] => (none, [])
  | c :: t =>
      match SignStyle.ofChar? c with
      | some s => (some s, t)
      | none => (none, c :: t)

/-- Whether a text starts with the flag `c`, and what is left without it. -/
def splitFlag (c : Char) : Text → Bool × Text
  | [] => (false, [])
  | d :: t => if d = c then (true, t) else (false, d :: t)

/-- Whether a width starts with a zero, which counts only when no fill is written, and what is left
    without it. -/
def splitZero (fill? : Option Char) (t : Text) : Bool × Text :=
  if fill?.isNone then splitFlag '0' t else (false, t)

/-- The largest width or precision that can be written. -/
def maxCount : Nat := 9223372036854775807

/-- A run of decimal digits as a count: none when there is no digit. -/
def readCount (t : Text) : Except SpecFault (Option Nat × Text) :=
  let (ds, rest) := spanDigits t
  if ds.isEmpty then .ok (none, rest)
  else
    let n := digitsValue 10 ds
    if n ≤ maxCount then .ok (some n, rest) else .error .tooManyDigits

def readGrouping (t : Text) : Except SpecFault (Option Grouping × Text) :=
  let (comma, t) := splitFlag ',' t
  let (underscore, t) := splitFlag '_' t
  if comma && underscore then .error .twoSeparators
  else if underscore && t.head? == some ',' then .error .twoSeparators
  else .ok (if comma then some .comma else if underscore then some .underscore else none, t)

def readPrecision (t : Text) : Except SpecFault (Option Nat × Text) :=
  match t with
  | '.' :: t => do
      let (count, rest) ← readCount t
      match count with
      | some n => .ok (some n, rest)
      | none => .error .missingPrecision
  | t => .ok (none, t)

def allowsGrouping (g : Grouping) : Option Char → Bool
  | none => true
  | some c => c ∈ ['d', 'e', 'f', 'g', 'E', 'G', '%', 'F'] ||
      (g == .underscore && c ∈ ['b', 'o', 'x', 'X'])

/-- Reads what a spec has in front of its presentation letter, and says what is left behind it.
    The alignment of the value's type holds where the spec has none. A zero in front of the width
    means zero padding inside of the number. -/
def readParts (align : Align) (spec : Text) : Except SpecFault (FormatSpec × Text) := do
  let (fill?, align?, t) := splitAlign spec
  let (sign, t) := splitSignStyle t
  let (dropNegativeZero, t) := splitFlag 'z' t
  let (alternate, t) := splitFlag '#' t
  let (zero, t) := splitZero fill? t
  let fill := if zero then '0' else fill?.getD ' '
  let align := match align? with
    | some a => a
    | none => if zero && align == .right then .inside else align
  let (width, t) ← readCount t
  let (grouping, t) ← readGrouping t
  let (precision, t) ← readPrecision t
  .ok ({ fill, align, sign, dropNegativeZero, alternate, width, grouping, precision,
         letter := none }, t)

/-- The presentation letter that is left of a spec; that of the value's type when nothing is. The
    null character in its place asks for the plain form. -/
def readLetter (typeName : Text) (letter : Option Char) (spec : Text) :
    Text → Except SpecFault (Option Char)
  | [] => .ok letter
  | [c] => .ok (if c = '\x00' then none else some c)
  | _ => .error (.malformed spec typeName)

/-- A spec as it is, if its letter goes with its separator. -/
def checked (spec : FormatSpec) : Except SpecFault FormatSpec :=
  match spec.grouping with
  | some g =>
      if allowsGrouping g spec.letter then .ok spec
      else .error (.separatorWith g (spec.letter.getD '\x00'))
  | none => .ok spec

/-- Reads a format spec for a value of a type, whose own letter and alignment hold where the spec
    has none. -/
def read (typeName : Text) (letter : Option Char) (align : Align) (spec : Text) :
    Except SpecFault FormatSpec := do
  let (parts, rest) ← readParts align spec
  let letter ← readLetter typeName letter spec rest
  checked { parts with letter }

/-- The text padded to the width of the spec; padding inside of a number does not come here. -/
def pad (spec : FormatSpec) (t : Text) : Text :=
  let missing := spec.width.getD 0 - t.length
  let left := match spec.align with
    | .right => missing
    | .center => missing / 2
    | .left | .inside => 0
  List.replicate left spec.fill ++ t ++ List.replicate (missing - left) spec.fill

end FormatSpec

end Stencil

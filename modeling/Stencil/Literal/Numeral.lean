import Stencil.Number.Numeral
import Stencil.Scalar

/-! # Reading numerals

Numbers as they are written in literals: integers in four bases, floats, and
imaginary numbers, with single underscores between digits. A numeral ends where
no letter, digit or underscore follows it, some keywords apart.
-/

namespace Stencil.Literal

open Numeral

/-- A letter, digit or underscore of a name or numeral; beyond ASCII everything counts. -/
def isNameChar (c : Char) : Bool := c.isAlphanum || c == '_' || c.toNat ≥ 128

/-- The base a letter behind a leading zero stands for. -/
def baseOf? (c : Char) : Option Nat :=
  if c == 'x' || c == 'X' then some 16
  else if c == 'o' || c == 'O' then some 8
  else if c == 'b' || c == 'B' then some 2
  else none

def isDigitIn (base : Nat) (c : Char) : Bool :=
  (c.isDigit || ('a' ≤ c && c ≤ 'f') || ('A' ≤ c && c ≤ 'F')) && asciiDigitValue c < base

def readBased (base : Nat) (t : Text) : Option (Scalar × Text) :=
  let t := match t with
    | '_' :: u => u
    | t => t
  (spanGrouped (isDigitIn base) t).map fun r => (.int (numeralValue base r.1), r.2)

/-- A decimal numeral: its whole digits may be missing in front of a point. Whole numbers other
    than zero do not start with a zero. -/
def readDecimal (t : Text) : Option (Scalar × Text) := do
  let (whole, t) ← readWhole t
  let (fraction, t) ← readFraction t
  let (exponent, t) ← readExponentPart t
  let digits := whole ++ fraction.getD []
  let value := Binary64.ofDecimal false (numeralValue 10 digits)
    (exponent.getD 0 - ((fraction.getD []).length : Int))
  match t with
  | 'j' :: u | 'J' :: u => some (.complex (Binary64.zero false) value, u)
  | t =>
      if fraction.isSome || exponent.isSome then some (.float value, t)
      else if whole.head? == some '0' && whole.any (· != '0') then none
      else some (.int (numeralValue 10 whole), t)

/-- A number, whatever stands behind it. -/
def readNumber : Text → Option (Scalar × Text)
  | '0' :: c :: t =>
      match baseOf? c with
      | some base => readBased base t
      | none => readDecimal ('0' :: c :: t)
  | t => readDecimal t

/-- Keywords that may stand right behind a numeral. -/
def numeralFollowers : List Text := ["and", "else", "for", "if", "in", "is", "not", "or"]

/-- A numeral at the start of a text, and the rest. -/
def readNumeral (t : Text) : Option (Scalar × Text) := do
  let (value, rest) ← readNumber t
  if (rest.head?.map isNameChar).getD false &&
      !numeralFollowers.contains (rest.takeWhile isNameChar) then
    none
  else some (value, rest)

end Stencil.Literal

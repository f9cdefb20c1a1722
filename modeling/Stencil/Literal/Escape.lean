import Stencil.Number.Digits

/-! # Reading quoted text

The inside of a quoted literal: where it ends, and what its escapes stand for.
An escape nobody knows stands for itself, backslash included. Characters given by
their names are left out, and so are halves of surrogate pairs: a text with one of
them is not read.
-/

namespace Stencil.Literal

def hexValue? (c : Char) : Option Nat :=
  if c.isDigit then some (c.toNat - '0'.toNat)
  else if 'a' ≤ c ∧ c ≤ 'f' then some (c.toNat - 'a'.toNat + 10)
  else if 'A' ≤ c ∧ c ≤ 'F' then some (c.toNat - 'A'.toNat + 10)
  else none

def octalValue? (c : Char) : Option Nat :=
  if '0' ≤ c ∧ c ≤ '7' then some (c.toNat - '0'.toNat) else none

/-- The value of exactly `count` hexadecimal digits at the start of a text. -/
def hexNumber? (count : Nat) (t : Text) : Option Nat :=
  if t.length < count then none
  else ((t.take count).mapM hexValue?).map (digitsValue 16)

/-- The text inside of quotes, escapes left as they are, and what stands behind the closing quote.
    A line feed ends nothing and may not stand between single marks. -/
def closeQuote (quote : Char) (tripled : Bool) : Text → Option (Text × Text)
  | [] => none
  | [c] => if c == quote && !tripled then some ([], []) else none
  | c :: d :: t =>
      if c == '\\' then
        (closeQuote quote tripled t).map fun r => (c :: d :: r.1, r.2)
      else if c == quote && !tripled then some ([], d :: t)
      else if c == quote && d == quote && t.head? == some quote then some ([], t.drop 1)
      else if c == '\n' && !tripled then none
      else (closeQuote quote tripled (d :: t)).map fun r => (c :: r.1, r.2)

/-- What a one-letter escape stands for. -/
def simpleEscape? (c : Char) : Option Char :=
  if c == '\\' || c == '\'' || c == '"' then some c
  else if c == 'n' then some '\n'
  else if c == 't' then some '\t'
  else if c == 'r' then some '\r'
  else if c == 'a' then some '\x07'
  else if c == 'b' then some '\x08'
  else if c == 'f' then some '\x0c'
  else if c == 'v' then some '\x0b'
  else none

def hexEscapeLength? (wide : Bool) (c : Char) : Option Nat :=
  if c == 'x' then some 2
  else if !wide then none
  else if c == 'u' then some 4
  else if c == 'U' then some 8
  else none

def charOf? (n : Nat) : Option Char :=
  if n.isValidChar then some (Char.ofNat n) else none

/-- The characters that an escaped text stands for. A `wide` text may name any character by its
    code; otherwise codes stay below 256 and names are not known. -/
def unescape (wide : Bool) : Text → Option Text
  | [] => some []
  | c :: t =>
      if c != '\\' then (unescape wide t).map (c :: ·)
      else match t with
        | [] => none
        | d :: u =>
            if d == '\n' then unescape wide u
            else match simpleEscape? d with
              | some e => (unescape wide u).map (e :: ·)
              | none =>
                  match hexEscapeLength? wide d with
                  | some count =>
                      match (hexNumber? count u).bind charOf? with
                      | some e => (unescape wide (u.drop count)).map (e :: ·)
                      | none => none
                  | none =>
                      let octal := ((d :: u).take 3).takeWhile fun c => (octalValue? c).isSome
                      if octal.isEmpty then
                        if wide && d == 'N' then none
                        else (unescape wide u).map (fun r => c :: d :: r)
                      else
                        let n := digitsValue 8 (octal.filterMap octalValue?)
                        let n := if wide then n else n % 256
                        (unescape wide (u.drop (octal.length - 1))).map (Char.ofNat n :: ·)
termination_by t => t.length
decreasing_by all_goals (simp only [List.length_cons, List.length_drop]; omega)

end Stencil.Literal

import Stencil.Text.Basic

/-! # Blanks and line breaks

Which characters are white space, which end a line, and the trimming and
splitting that go by them. Every line break is a blank; not every blank outside
ASCII is a line break.
-/

namespace Stencil

/-- White space: the separators of Unicode, and the characters that bidirectional layout
    treats as white space or as the end of a paragraph or segment. -/
def isBlank (c : Char) : Bool :=
  let n := c.toNat
  (9 ≤ n && n ≤ 13) || (28 ≤ n && n ≤ 32) || n == 0x85 || n == 0xa0 || n == 0x1680 ||
    (0x2000 ≤ n && n ≤ 0x200a) || n == 0x2028 || n == 0x2029 || n == 0x202f || n == 0x205f ||
    n == 0x3000

/-- A character that ends a line. A carriage return and the line feed after it end one line. -/
def isLineBreak (c : Char) : Bool :=
  let n := c.toNat
  (10 ≤ n && n ≤ 13) || (28 ≤ n && n ≤ 30) || n == 0x85 || n == 0x2028 || n == 0x2029

namespace Text

def trimStart (t : Text) : Text := t.dropWhile isBlank

def trimEnd (t : Text) : Text := (t.reverse.dropWhile isBlank).reverse

/-- The text without its outer blanks. -/
def trim (t : Text) : Text := trimEnd (trimStart t)

/-- Whether no visible character is left. -/
def isBlank (t : Text) : Bool := t.all Stencil.isBlank

/-- The lines of a text without their breaks. A break at the very end starts no further line. -/
def lines : Text → List Text
  | [] => []
  | '\r' :: '\n' :: t => [] :: lines t
  | c :: t =>
      if isLineBreak c then [] :: lines t
      else match lines t with
        | [] => [[c]]
        | line :: rest => (c :: line) :: rest

/-- The maximal runs of visible characters. With a limit only so many are cut off, and what is
    left behind them is one more, without its outer blanks. Inside a run the first result is
    what is left of that run. -/
def wordsFrom (inside : Bool) (limit : Option Nat) : Text → List Text
  | [] => if inside then [[]] else []
  | c :: t =>
      if Stencil.isBlank c then
        if inside then [] :: wordsFrom false limit t else wordsFrom false limit t
      else if !inside && limit == some 0 then [trimEnd (c :: t)]
      else
        match wordsFrom true (if inside then limit else limit.map (· - 1)) t with
        | [] => [[c]]
        | word :: rest => (c :: word) :: rest

/-- The words of a text, at most `limit` of them cut off when a limit is given. -/
def words (limit : Option Nat) (t : Text) : List Text := wordsFrom false limit t

end Text

end Stencil

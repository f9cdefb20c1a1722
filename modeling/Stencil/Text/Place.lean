import Stencil.Text.Blank

/-! # Inside and outside of quotes

Where a scan through text stands. A quote mark opens outside of quotes and is
closed by the same mark; a backslash inside keeps the next character from
closing. The marks themselves count as quoted.
-/

namespace Stencil

/-- Where a scan stands. -/
inductive Place where
  | outside
  /-- Between quote marks; `escaped` right behind a backslash. -/
  | inside (quote : Char) (escaped : Bool)
  deriving DecidableEq, Repr

/-- A mark that opens quotes. -/
def isQuote (c : Char) : Bool := c == '\'' || c == '"'

namespace Place

/-- The place behind a character. -/
def after (p : Place) (c : Char) : Place :=
  match p with
  | outside => if isQuote c then inside c false else outside
  | inside q true => inside q false
  | inside q false =>
      if c == '\\' then inside q true else if c == q then outside else inside q false

/-- Whether a character met at a place counts as quoted. -/
def quotes (p : Place) (c : Char) : Bool :=
  match p with
  | outside => isQuote c
  | inside .. => true

end Place

end Stencil

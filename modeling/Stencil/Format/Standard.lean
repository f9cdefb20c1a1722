import Stencil.Text.Word

/-! # The form of a standard format spec

The check a spec passes before any value is looked at: whether it has the form
`[[fill]align][sign][z][#][0][width][grouping][.precision][letter]`. It is
weaker than what any one kind of value accepts.
-/

namespace Stencil.Format

/-- A text without its first character when that is of a class. -/
def skipOne (p : Char → Bool) : Text → Text
  | [] => []
  | c :: t => if p c then t else c :: t

def isAlign (c : Char) : Bool := c ∈ ['<', '>', '=', '^']

def isSign (c : Char) : Bool := c ∈ ['-', '+', ' ']

def isSeparator (c : Char) : Bool := c ∈ [',', '_']

def isLetter (c : Char) : Bool :=
  c ∈ ['b', 'c', 'd', 'e', 'E', 'f', 'F', 'g', 'G', 'n', 'o', 's', 'x', 'X', '%']

/-- A text without a point and at least one digit at its start. -/
def skipPrecision : Text → Text
  | '.' :: c :: t => if isDecimal c then t.dropWhile isDecimal else '.' :: c :: t
  | t => t

/-- Whether a text consists of the parts of a spec behind fill and alignment. Each part is
    optional, and no character can start two of them, so each takes what it can. -/
def isSpecTail (t : Text) : Bool :=
  let t := skipOne (· == '#') (skipOne (· == 'z') (skipOne isSign t))
  let t := skipOne isSeparator (t.dropWhile isDecimal)
  (skipOne isLetter (skipPrecision t)).isEmpty

/-- Whether a text has the form of a format spec. The fill may be any character, also one that
    could be part of the spec itself, so all three ways to begin are tried. -/
def isStandardSpec (t : Text) : Bool :=
  isSpecTail t ||
  (match t with
    | c :: rest => isAlign c && isSpecTail rest
    | [] => false) ||
  (match t with
    | _ :: d :: rest => isAlign d && isSpecTail rest
    | _ => false)

/-- Whether a text ends in a point and digits, with no line feed in front of them: a precision
    without a presentation letter. -/
def isPrecisionOnly (t : Text) : Bool :=
  let back := t.reverse
  let front := back.dropWhile isDecimal
  match back.head?, front with
  | some c, '.' :: before => isDecimal c && before.all (· != '\n')
  | _, _ => false

end Stencil.Format

import Stencil.Literal.Escape
import Stencil.Literal.Numeral
import Stencil.Text.Place

/-! # Tokens of expressions

The text of an expression cut into numerals, quoted texts, names, marks and other
operators. Blanks and comments between them are dropped; a line may end inside of
brackets only. Nothing here checks how tokens follow each other.
-/

namespace Stencil.Literal

inductive Token where
  /-- A number without sign. -/
  | number (s : Scalar)
  | text (t : Text)
  | bytes (bs : List UInt8)
  /-- Quoted text that values are put into. What it has inside of its quotes is not looked at. -/
  | format
  | name (t : Text)
  | dots
  /-- A bracket, comma, colon or sign. -/
  | mark (c : Char)
  | operator (t : Text)
  deriving DecidableEq, Repr

/-- A bracket, comma, colon or sign. -/
def isMark (c : Char) : Bool := c ∈ ['(', ')', '[', ']', '{', '}', ',', ':', '+', '-']

/-- What letters in front of a quote say: whether escapes are kept and whether bytes are meant. -/
def quoteLetters? (letters : Text) : Option (Bool × Bool) :=
  let l := letters.map Char.toLower
  if l = [] ∨ l = ['u'] then some (false, false)
  else if l = ['r'] then some (true, false)
  else if l = ['b'] then some (false, true)
  else if l = ['b', 'r'] ∨ l = ['r', 'b'] then some (true, true)
  else none

/-- Letters in front of a quote that ask for values inside of it. -/
def formatLetters (letters : Text) : Bool :=
  let l := letters.map Char.toLower
  l == ['f'] || l == ['f', 'r'] || l == ['r', 'f']

/-- The token of a quoted text, given what is inside of the quotes. -/
def quotedToken (raw bytes : Bool) (body : Text) : Option Token := do
  if bytes && body.any (fun c => c.toNat ≥ 128) then none
  let t ← if raw then some body else unescape (!bytes) body
  if bytes then some (.bytes (t.map fun c => UInt8.ofNat c.toNat)) else some (.text t)

/-- A quoted text whose opening quote is `quote`, its letters read before. -/
def readQuoted (letters : Text) (quote : Char) (t : Text) : Option (Token × Text) := do
  let tripled := t.take 2 == [quote, quote]
  let (body, rest) ← closeQuote quote tripled (if tripled then t.drop 2 else t)
  if formatLetters letters then some (.format, rest)
  else
    let (raw, bytes) ← quoteLetters? letters
    let token ← quotedToken raw bytes body
    some (token, rest)

/-- Operators that are no marks, those that start others behind them. -/
def operators : List Text :=
  ["**", "//", "<<", ">>", "<=", ">=", "==", "!=",
    "*", "/", "%", "@", "&", "|", "^", "~", "<", ">", "=", "."]

def readOperator (t : Text) : Option (Token × Text) :=
  (operators.find? (·.isPrefixOf t)).map fun o => (.operator o, t.drop o.length)

/-- A name, or a quoted text if the name is made of the letters of one. -/
def readName (letters : Text) (t : Text) : Option (Token × Text) :=
  match t with
  | q :: u =>
      if isQuote q && (formatLetters letters || (quoteLetters? letters).isSome) then
        readQuoted letters q u
      else some (.name letters, t)
  | [] => some (.name letters, [])

/-- The token at the start of a text that does not start with a blank. -/
def readToken (t : Text) : Option (Token × Text) :=
  match t with
  | [] => none
  | c :: u =>
      if isMark c then
        if c == ':' && u.head? == some '=' then some (.operator ":=", u.drop 1)
        else some (.mark c, u)
      else if isQuote c then readQuoted [] c u
      else if c.isDigit || (c == '.' && (u.head?.map Char.isDigit).getD false) then
        (readNumeral t).map fun r => (.number r.1, r.2)
      else if c == '.' && u.take 2 == ['.', '.'] then some (.dots, u.drop 2)
      else if isNameChar c then
        let letters := t.takeWhile isNameChar
        -- Beyond ASCII not everything that ends no number is part of a name.
        if letters.all fun d => d.toNat < 128 || isWord d then
          readName letters (t.dropWhile isNameChar)
        else none
      else readOperator t

/-- A blank that may stand anywhere between tokens. -/
def isSpacing (c : Char) : Bool := c == ' ' || c == '\t' || c == '\x0c'

/-- Whether nothing but blanks and comments is left; `comment` while inside of one. -/
def isTrivia (comment : Bool) : Text → Bool
  | [] => true
  | c :: t =>
      if c == '\n' then isTrivia false t
      else if comment then isTrivia true t
      else if c == '#' then isTrivia true t
      else isSpacing c && isTrivia false t

/-- Whether a line starts with blanks and then something other than a comment. -/
def isIndented (t : Text) : Bool :=
  match t with
  | c :: _ =>
      isSpacing c &&
        match (t.dropWhile isSpacing).head? with
        | some d => !(d == '#' || d == '\n')
        | none => false
  | [] => false

/-- How many brackets are open behind a token. -/
def openBrackets (depth : Nat) : Token → Nat
  | .mark c =>
      if c ∈ ['(', '[', '{'] then depth + 1 else if c ∈ [')', ']', '}'] then depth - 1 else depth
  | _ => depth

/-- The tokens of a text, `depth` brackets being open. Outside of brackets only blank lines and
    comments come before the first token and behind the line of the last. -/
def tokensFrom (depth : Nat) (started : Bool) (t : Text) : Option (List Token) :=
  match t with
  | [] => some []
  | c :: u =>
      if isSpacing c then tokensFrom depth started u
      else if c == '\n' then
        if depth > 0 then tokensFrom depth started u
        else if started then if isTrivia false u then some [] else none
        else if isIndented u then none
        else tokensFrom depth started u
      else if c == '#' then tokensFrom depth started (u.dropWhile (· != '\n'))
      else if c == '\\' then
        match u with
        | '\n' :: v => tokensFrom depth started v
        | _ => none
      else match readToken (c :: u) with
        | none => none
        | some (token, rest) =>
            if rest.length ≤ u.length then
              (tokensFrom (openBrackets depth token) true rest).map (token :: ·)
            else none
termination_by t.length
decreasing_by
  all_goals simp only [List.length_cons]
  · omega
  · omega
  · omega
  · exact Nat.lt_succ_of_le (List.dropWhile_sublist _).length_le
  · omega
  · omega

/-- The text with every kind of line end written as a line feed. -/
def unifyLines : Text → Text
  | [] => []
  | '\r' :: '\n' :: t => '\n' :: unifyLines t
  | c :: t => (if c == '\r' then '\n' else c) :: unifyLines t

/-- The tokens of a text. A null character makes a text unreadable wherever it stands. -/
def tokens (t : Text) : Option (List Token) :=
  if '\x00' ∈ t then none else tokensFrom 0 false (unifyLines t)

end Stencil.Literal

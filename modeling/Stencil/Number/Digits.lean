import Stencil.Text.Blank
import Stencil.Text.Word

/-! # Integers as text

Integers written in a base, and integers read from decimal text the way a user
types them: outer blanks, a sign, and single underscores between digits of any
script.
-/

namespace Stencil

def natText (n : Nat) : Text := Nat.toDigits 10 n

def intText (i : Int) : Text :=
  match i with
  | .ofNat n => natText n
  | .negSucc n => '-' :: natText (n + 1)

/-- The value of a run of digits, most significant first. -/
def digitsValue (base : Nat) (ds : List Nat) : Nat := ds.foldl (fun n d => n * base + d) 0

/-- The values of the leading decimal digits of any script, and what is left behind them. -/
def spanDigits : Text → List Nat × Text
  | [] => ([], [])
  | c :: t =>
      match digitValue? c with
      | some d => let (ds, rest) := spanDigits t; (d :: ds, rest)
      | none => ([], c :: t)

/-- Digits with single underscores between them; `afterDigit` says whether an underscore or the
    end may come next. -/
def groupedDigits? (afterDigit : Bool) : Text → Option (List Nat)
  | [] => if afterDigit then some [] else none
  | c :: t =>
      match digitValue? c with
      | some d => (groupedDigits? true t).map (d :: ·)
      | none => if c == '_' && afterDigit then groupedDigits? false t else none

/-- An optional sign in front: whether it is a minus, and the rest. -/
def splitSign : Text → Bool × Text
  | '-' :: t => (true, t)
  | '+' :: t => (false, t)
  | t => (false, t)

def readInt? (t : Text) : Option Int :=
  let (negative, t) := splitSign (Text.trim t)
  (groupedDigits? false t).map fun ds =>
    if negative then -(digitsValue 10 ds : Int) else (digitsValue 10 ds : Int)

end Stencil

import Stencil.Text.Basic

/-! # Faults of values

What goes wrong inside of a value: a failing attribute, an index out of range, a
method that raises. A fault has a kind, which decides where it is caught, and a
text. Errors in templates are not faults; they have causes of their own.
-/

namespace Stencil

/-- The kind of a fault. Kinds that nothing distinguishes go by their name alone. -/
inductive FaultKind where
  | badValue | badType | missingKey | badIndex | missingAttribute
  | tooDeep | overflow | zeroDivision
  | other (name : Text)
  deriving DecidableEq, Repr, Inhabited

namespace FaultKind

def name : FaultKind → Text
  | badValue => "ValueError"
  | badType => "TypeError"
  | missingKey => "KeyError"
  | badIndex => "IndexError"
  | missingAttribute => "AttributeError"
  | tooDeep => "RecursionError"
  | overflow => "OverflowError"
  | zeroDivision => "ZeroDivisionError"
  | other n => n

def ofName (n : Text) : FaultKind :=
  match [badValue, badType, missingKey, badIndex, missingAttribute, tooDeep, overflow,
      zeroDivision].find? (fun k => k.name == n) with
  | some k => k
  | none => other n

/-- A value that is right in type and wrong in content, text that does not decode included. -/
def isBadValue (k : FaultKind) : Bool :=
  k == badValue || k == other "UnicodeError" || k == other "UnicodeDecodeError" ||
    k == other "UnicodeEncodeError" || k == other "UnicodeTranslateError"

end FaultKind

structure Fault where
  kind : FaultKind
  text : Text := []
  deriving DecidableEq, Repr, Inhabited

/-- Infinite descent into a value. -/
def Fault.descent : Fault := ⟨.tooDeep, "maximum recursion depth exceeded"⟩

theorem map_error {α β ε : Type} {f : α → β} {r : Except ε α} {e : ε} (h : r.map f = .error e) :
    r = .error e := by
  cases r with
  | ok a => cases h
  | error e' =>
      cases h
      rfl

end Stencil

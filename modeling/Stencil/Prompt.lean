import Stencil.Method.Call
import Stencil.World

/-! # Prompts

Asking for a line until it converts. A blank line and a line that the converter
refuses are answered with a reason and asked again; every other fault of the
converter ends the prompt, and so does the end of the input.
-/

namespace Stencil

/-- How an answer becomes a value. -/
inductive Converter where
  | text
  | integer
  | float
  /-- The words for true and false, nothing else. -/
  | truth
  /-- Exactly one character. -/
  | character
  /-- The number of characters. -/
  | length
  | behaviour (b : Behaviour)
  deriving Repr

def readTruth (t : Text) : Except Fault Bool :=
  if t = ("true" : Text) then .ok true
  else if t = ("false" : Text) then .ok false
  else .error ⟨.badValue, "provided string was not `true` or `false`"⟩

def readCharacter (t : Text) : Except Fault Text :=
  match t with
  | [c] => .ok [c]
  | [] => .error ⟨.badValue, "cannot parse char from empty string"⟩
  | _ => .error ⟨.badValue, "too many characters in string"⟩

namespace Converter

def convert (c : Converter) (t : Text) : Act Value :=
  match c with
  | text => pure (.text t)
  | integer =>
      match readInt? t with
      | some i => pure (.int i)
      | none =>
          throw ⟨.badValue, "invalid literal for int() with base 10: " ++ (quoted t).take 200⟩
  | float =>
      match readFloat? t with
      | some x => pure (.float x)
      | none => throw ⟨.badValue, "could not convert string to float: " ++ quoted t⟩
  | truth => ExceptT.mk (pure ((readTruth t).map Value.truth))
  | character => ExceptT.mk (pure ((readCharacter t).map Value.text))
  | length => pure (.int t.length)
  | behaviour b => Method.follow b [.text t]

end Converter

/-- The answer to a blank line. -/
def emptyInputMessage : Text := "Error: Unauthorized empty input."

/-- The text up to the end of a line, and what is left behind it. -/
def cutLine : Text → Text × Text
  | [] => ([], [])
  | c :: t =>
      if c = '\n' then ([], t)
      else
        let (line, rest) := cutLine t
        (c :: line, rest)

theorem cutLine_length (c : Char) (t : Text) : (cutLine (c :: t)).2.length < (c :: t).length := by
  have tail : ∀ t : Text, (cutLine t).2.length ≤ t.length := by
    intro t
    induction t with
    | nil => simp [cutLine]
    | cons d t ih =>
      simp only [cutLine]
      split
      · simp
      · simp; omega
  simp only [cutLine]
  split
  · simp
  · have := tail t
    simp; omega

def World.write (w : World) (t : Text) : World := { w with output := w.output ++ [t] }

/-- Whether a fault of a converter asks for another line. -/
def isRefusal (k : FaultKind) : Bool := k.isBadValue || k == .badType

/-- Asks until an answer converts. -/
def ask (message : Text) (convert : Text → Act Value) (w : World) :
    Except Failure Value × World :=
  let asked := w.write message
  match _h : w.input with
  | [] => (.error .endOfInput, asked)
  | c :: t =>
      let line := Text.trim (cutLine (c :: t)).1
      let rest := (cutLine (c :: t)).2
      if line = [] then
        ask message convert ({ asked with input := rest }.write (emptyInputMessage ++ ['\n']))
      else
        let (r, s) := (convert line).run w.store
        let after := { asked with input := rest, store := s }
        match r with
        | .ok v => (.ok v, after)
        | .error f =>
            if isRefusal f.kind then
              ask message convert (after.write ("Error: " ++ f.text ++ ['.', '\n']))
            else (.error (.fault f), after)
termination_by w.input.length
decreasing_by
  all_goals
    have := cutLine_length c t
    rw [_h]
    exact this

def prompt (message : Text) (c : Converter) : Run Value := ask message c.convert

end Stencil

import Stencil.Text.Place

/-! # Matching brackets

The bracket that closes an opening one, among square brackets and parentheses
outside of quotes. Brackets of the two kinds have to nest.
-/

namespace Stencil.Reference

/-- The bracket that closes an opening one. -/
def closer? (c : Char) : Option Char :=
  if c == '[' then some ']' else if c == '(' then some ')' else none

/-- The offset at which the last of the brackets that are open is closed, `expected` being what
    closes each of them, the innermost first. -/
def findCloserFrom (expected : List Char) (p : Place) : Text → Option Nat
  | [] => none
  | c :: t =>
      if p.quotes c then (findCloserFrom expected (p.after c) t).map (· + 1)
      else match closer? c with
        | some d => (findCloserFrom (d :: expected) p t).map (· + 1)
        | none =>
            if c == ')' || c == ']' then
              match expected with
              | [] => none
              | d :: outer =>
                  if c != d then none
                  else if outer.isEmpty then some 0
                  else (findCloserFrom outer p t).map (· + 1)
            else (findCloserFrom expected p t).map (· + 1)

/-- Where in the text behind an opening bracket that bracket is closed. -/
def findCloser (opening : Char) (t : Text) : Option Nat :=
  match closer? opening with
  | some d => findCloserFrom [d] .outside t
  | none => none

end Stencil.Reference

import Stencil.Layout.Array
import Stencil.Value.Compact

/-! # Laying out containers

A value laid out by the look of its structural text: sequences by their brackets,
mappings on one line while they are short, everything else as it is.
-/

namespace Stencil

/-- Mappings with shorter text stay on one line. -/
def inlineLimit : Nat := 100

/-- A value laid out for reading, and the warning about brackets that do not match. -/
def Store.layOut (s : Store) (v : Value) : Text × Option Text :=
  let text := s.debugText v
  match text with
  | '[' :: _ => Layout.formatArray text none
  | '{' :: _ =>
      if '\n' ∉ text ∧ text.length < inlineLimit then (text, none)
      else (s.expand Layout.standardIndent v, none)
  | _ => (text, none)

end Stencil

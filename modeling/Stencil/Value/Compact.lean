import Stencil.Text.Blank
import Stencil.Value.Expand

/-! # Debug text

The structural text of a value: what it is shown by, with list-like containers
written as list literals; and the same folded into a single line.
-/

namespace Stencil

/-- Text of several lines in one: the lines that are not blank, without their outer blanks,
    separated by single spaces. Text without a line break stays as it is. -/
def Text.fold (t : Text) : Text :=
  let lines := t.lines
  if lines.length > 1 ∨ t ≠ lines.flatten then
    Text.joinWith " " ((lines.filter fun l => !Text.isBlank l).map Text.trim)
  else t

namespace Store

/-- The items of a container that is written as a list literal. -/
def listLike? (s : Store) (v : Value) : Option (List Value) :=
  match v with
  | .ref a =>
      match s[a]? with
      | some (.list _) | none => none
      | some c => c.listItems? s
  | _ => none

/-- The structural text of a value on as many lines as its parts take. A list-like container is
    written as the list of its items. -/
def debugText (s : Store) (v : Value) : Text :=
  match s.listLike? v with
  | some items =>
      let (a, t) := s.allocate (.list items)
      t.safeDisplay (.ref a)
  | none => s.safeDisplay v

/-- The structural text of a value on one line. -/
def compactText (s : Store) (v : Value) : Text := (s.debugText v).fold

end Store

end Stencil

import Stencil.Layout.Scan

/-! # Breaking lines at any depth

One pass over bracketed text that breaks the line behind an inner opening
bracket, before a closing one, and between a comma and the bracket that follows
it. Every character of the text is kept, spaces included.
-/

namespace Stencil.Layout

/-- A line break and the padding of a level; a negative width pads nothing. -/
def breakTo (indent level : Int) : Text := '\n' :: List.replicate (indent * level).toNat ' '

/-- Whether the first visible character of a text is an opening bracket. -/
def opensNext (t : Text) : Bool := (Text.trimStart t).head? == some '['

/-- The text laid out from a place on, `level` brackets being open. -/
def nestedFrom (indent level : Int) (p : Place) : Text → Text
  | [] => []
  | c :: t =>
      let next := p.after c
      if p.quotes c then c :: nestedFrom indent level next t
      else if c == '[' then
        c :: (if level + 1 > 1 then breakTo indent level else []) ++
          nestedFrom indent (level + 1) next t
      else if c == ']' then
        (if level - 1 ≥ 1 then breakTo indent (level - 1) else []) ++
          c :: nestedFrom indent (level - 1) next t
      else if c == ',' then
        c :: (if opensNext t then breakTo indent (max level 0) else []) ++
          nestedFrom indent level next t
      else c :: nestedFrom indent level next t

/-- Bracketed text with its lines broken by nesting. -/
def formatNested (t : Text) (indent : Int) : Text := nestedFrom indent 0 .outside t

end Stencil.Layout

import Stencil.Layout.Scan

/-! # Bracket depth

How deep the square brackets of a text are nested outside of quotes, and whether
they are balanced. The depth is that of the deepest start of the text, so it is
defined for unbalanced text as well.
-/

namespace Stencil.Layout

/-- What the brackets of a text come to. -/
structure Profile where
  /-- The greatest number of brackets open at once. -/
  depth : Nat
  /-- Whether each bracket is closed and each closing one was open. -/
  balanced : Bool
  deriving DecidableEq, Repr

/-- The profile of scanned characters, `level` brackets being open, `deepest` the most so far and
    `sound` while no bracket closed that was not open. -/
def profileFrom (level : Int) (deepest : Nat) (sound : Bool) : List (Char × Bool) → Profile
  | [] => ⟨deepest, sound && level == 0⟩
  | (c, quoted) :: rest =>
      if quoted then profileFrom level deepest sound rest
      else if c == '[' then
        profileFrom (level + 1) (max deepest (level + 1).toNat) sound rest
      else if c == ']' then profileFrom (level - 1) deepest (sound && 0 < level) rest
      else profileFrom level deepest sound rest

def profile (t : Text) : Profile := profileFrom 0 0 true (scan t)

def nestingDepth (t : Text) : Nat := (profile t).depth

end Stencil.Layout

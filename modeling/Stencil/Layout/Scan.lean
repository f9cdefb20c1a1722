import Stencil.Text.Place

/-! # Quoted and unquoted characters

The characters of a text, each with whether it stands in quotes, and the maximal
runs of either kind. No text is malformed: quotes may stay open to the end.
-/

namespace Stencil.Layout

/-- The characters of a text from a place on, each with whether it is quoted. -/
def scanFrom (p : Place) : Text → List (Char × Bool)
  | [] => []
  | c :: t => (c, p.quotes c) :: scanFrom (p.after c) t

/-- The characters of a text, each with whether it is quoted. -/
def scan (t : Text) : List (Char × Bool) := scanFrom .outside t

/-- The characters gathered into maximal runs of quoted and of unquoted ones. -/
def runs : List (Char × Bool) → List (Text × Bool)
  | [] => []
  | (c, q) :: rest =>
      match runs rest with
      | [] => [([c], q)]
      | (t, r) :: more => if q == r then (c :: t, q) :: more else ([c], q) :: (t, r) :: more

end Stencil.Layout

import Stencil.Literal.Basic

/-! # References

A reference names an argument of a rendering, by position or by keyword, and
walks into it by attributes, items and calls. Keys and call arguments are
literals: nothing in a reference is evaluated.
-/

namespace Stencil

/-- The argument a reference starts from. -/
inductive Head where
  | index (n : Nat)
  | name (t : Text)
  deriving Repr

inductive Step where
  | attribute (name : Text)
  | item (key : Literal)
  /-- A call; the arguments are the items of a literal, which is a tuple as a rule. -/
  | call (arguments : Literal)
  deriving Repr

/-- A reference and the text it was read from. -/
structure Reference where
  text : Text
  head : Head
  steps : List Step
  deriving Repr

end Stencil

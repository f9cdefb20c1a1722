import Stencil.Literal.Parse

/-! # Reading literals

A text is a literal when its tokens are one expression and this expression is a
literal.
-/

namespace Stencil.Literal

def read (t : Text) : Except ReadFault Literal :=
  match (tokens t).bind fun ts => Parse.whole (ts.length + 1) ts with
  | some (e, _) => e.evaluate
  | none => .error .notLiteral

end Stencil.Literal

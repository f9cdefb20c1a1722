import Stencil.Number.Layout
import Stencil.Text.Quoted

/-! # Data without parts

The kinds of data that literals are made of, how each is written, and when two
of them are the same key.
-/

namespace Stencil

/-- Data without parts. -/
inductive Scalar where
  | none
  | bool (b : Bool)
  | int (i : Int)
  | float (x : Binary64)
  | complex (re im : Binary64)
  | text (t : Text)
  | bytes (bs : List UInt8)
  | ellipsis
  deriving DecidableEq, Repr, Inhabited

namespace Scalar

def display : Scalar → Text
  | none => "None"
  | bool true => "True"
  | bool false => "False"
  | int i => intText i
  | float x => floatText x
  | complex re im => complexText re im
  | text t => quoted t
  | bytes bs => quotedBytes bs
  | ellipsis => "Ellipsis"

/-- The real and the imaginary part of a number; a NaN has no comparable part. -/
def parts? : Scalar → Option (Option Extended × Option Extended)
  | bool b => some (some (.ratio (if b then 1 else 0) 1), some (.ratio 0 1))
  | int i => some (some (.ratio i 1), some (.ratio 0 1))
  | float x => some (x.extended?, some (.ratio 0 1))
  | complex re im => some (re.extended?, im.extended?)
  | _ => Option.none

/-- Whether two scalars are the same key: numbers by value, everything else by identity. -/
def same (a b : Scalar) : Bool :=
  match a.parts?, b.parts? with
  | some (some x, some y), some (some u, some v) => x.order u == .eq && y.order v == .eq
  | some _, _ => false
  | Option.none, _ => a == b

end Scalar

end Stencil

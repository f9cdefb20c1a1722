import Stencil.Method.Sequence

/-! # Methods of arrays

The items of an array belong to one machine type, which its code names. A value
that is no such item is a fault, and so is an integer outside of the type's range;
floats are rounded to the type.
-/

namespace Stencil.Method

/-- The number of bits of an integer item of an array, and whether it has a sign. -/
def integerWidth? (code : Char) : Option (Nat × Bool) :=
  match code with
  | 'b' => some (8, true)
  | 'B' => some (8, false)
  | 'h' => some (16, true)
  | 'H' => some (16, false)
  | 'i' => some (32, true)
  | 'I' => some (32, false)
  | 'l' | 'q' => some (64, true)
  | 'L' | 'Q' => some (64, false)
  | _ => none

def fits (i : Int) (bits : Nat) (signed : Bool) : Bool :=
  let limit : Int := twoTo (if signed then bits - 1 else bits)
  (if signed then -limit ≤ i else 0 ≤ i) && i < limit

def arrayItem (code : Char) (v : Value) : Act Scalar := do
  match integerWidth? code with
  | some (bits, signed) => do
      let i ← Act.orFail .badType v.integer?
      Act.require .overflow (fits i bits signed)
      pure (.int i)
  | none =>
      if code = 'u' then
        match v.text? with
        | some [c] => pure (.text [c])
        | _ => Act.fail .badType
      else do
        let x ← match v with
          | .scalar (.float x) => pure x
          | v => do
              let i ← Act.orFail .badType v.integer?
              Act.orFail .overflow (Binary64.ofInt? i)
        pure (.float (if code = 'f' then x.toSingle else x))

def callArray (a : Address) (code : Char) (xs : List Scalar) (name : String) (args : List Value) :
    Act Value := do
  let become (ys : List Scalar) : Act Value := do
    Act.put a (.array code ys)
    pure .nothing
  match name, args with
  | "index", args => indexIn (xs.map .scalar) args
  | "count", args => countIn (xs.map .scalar) args
  | "__contains__", args => contains (xs.map .scalar) args
  | "__len__", [] => pure (.int xs.length)
  | "tolist", [] => Act.allocate (.list (xs.map .scalar))
  | "append", [v] => do
      let x ← arrayItem code v
      become (xs ++ [x])
  | "insert", [i, v] => do
      let i ← Act.orFail .badType i.integer?
      let x ← arrayItem code v
      let n := insertionAt xs.length i
      become (xs.take n ++ x :: xs.drop n)
  | "pop", args => do
      let i ← match args with
        | [] => pure (-1)
        | [v] => Act.orFail .badType v.integer?
        | _ => Act.fail .badType
      let n ← Act.orFail .badIndex (positionAt xs.length i)
      let x ← Act.orFail .badIndex xs[n]?
      Act.put a (.array code (xs.eraseIdx n))
      pure (.scalar x)
  | "remove", [v] => do
      let s ← get
      let n ← Act.orFail .badValue (positionOf s v 0 (xs.map .scalar))
      become (xs.eraseIdx n)
  | "reverse", [] => become xs.reverse
  | _, _ => Act.fail .badType

end Stencil.Method

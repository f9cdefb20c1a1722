import Stencil.Value.Act

/-! # Methods of sequences

Lists and tuples, and the searches that all sequences share. A search looks from
the front and takes equality of values; a removal that finds nothing is a fault
and changes nothing.
-/

namespace Stencil.Method

/-- The position of a value among items, from an offset on. -/
def positionOf (s : Store) (v : Value) (offset : Nat) : List Value → Option Nat
  | [] => none
  | x :: xs => if s.equal x v then some offset else positionOf s v (offset + 1) xs

/-- A bound of a search: from the end when negative. -/
def searchBound (n : Nat) (standard : Nat) : Option Value → Act Nat
  | none => pure standard
  | some v => do
      let i ← Act.orFail .badType v.integer?
      pure (if i < 0 then (i + n).toNat else i.toNat)

/-- The first position of a value between optional bounds. -/
def indexIn (xs : List Value) (args : List Value) : Act Value := do
  match args with
  | v :: bounds => do
      Act.require .badType (bounds.length ≤ 2)
      let start ← searchBound xs.length 0 bounds[0]?
      let stop ← searchBound xs.length xs.length bounds[1]?
      let s ← get
      let i ← Act.orFail .badValue (positionOf s v start ((xs.take stop).drop start))
      pure (.int i)
  | [] => Act.fail .badType

def countIn (xs : List Value) (args : List Value) : Act Value := do
  match args with
  | [v] => do
      let s ← get
      pure (.int (xs.filter fun x => s.equal x v).length)
  | _ => Act.fail .badType

def contains (xs : List Value) (args : List Value) : Act Value := do
  match args with
  | [v] => do
      let s ← get
      pure (.truth (xs.any fun x => s.equal x v))
  | _ => Act.fail .badType

/-- The position an index names among `n` items; none when it is outside of them. -/
def positionAt (n : Nat) (i : Int) : Option Nat :=
  let i := if i < 0 then i + n else i
  if i < 0 ∨ (n : Int) ≤ i then none else some i.toNat

/-- Where an index puts a new item: at an end when it lies beyond. -/
def insertionAt (n : Nat) (i : Int) : Nat :=
  if i < 0 then (i + n).toNat else min i.toNat n

def callList (a : Address) (xs : List Value) (name : String) (args : List Value) : Act Value := do
  let become (ys : List Value) : Act Value := do
    Act.put a (.list ys)
    pure .nothing
  match name, args with
  | "index", args => indexIn xs args
  | "count", args => countIn xs args
  | "__contains__", args => contains xs args
  | "__len__", [] => pure (.int xs.length)
  | "append", [v] => become (xs ++ [v])
  | "insert", [i, v] => do
      let i ← Act.orFail .badType i.integer?
      let n := insertionAt xs.length i
      become (xs.take n ++ v :: xs.drop n)
  | "extend", [v] => do
      let s ← get
      let ys ← Act.orFail .badType (s.iterate? v)
      become (xs ++ ys)
  | "pop", args => do
      let i ← match args with
        | [] => pure (-1)
        | [v] => Act.orFail .badType v.integer?
        | _ => Act.fail .badType
      let n ← Act.orFail .badIndex (positionAt xs.length i)
      let v ← Act.orFail .badIndex xs[n]?
      Act.put a (.list (xs.eraseIdx n))
      pure v
  | "remove", [v] => do
      let s ← get
      let n ← Act.orFail .badValue (positionOf s v 0 xs)
      become (xs.eraseIdx n)
  | "clear", [] => become []
  | "reverse", [] => become xs.reverse
  | "sort", [] => do
      let s ← get
      let (ys, ordered) := sortItems s.less? xs
      Act.put a (.list ys)
      Act.require .badType ordered
      pure .nothing
  | _, _ => Act.fail .badType

def callTuple (xs : List Value) (name : String) (args : List Value) : Act Value := do
  match name, args with
  | "index", args => indexIn xs args
  | "count", args => countIn xs args
  | "__contains__", args => contains xs args
  | "__len__", [] => pure (.int xs.length)
  | _, _ => Act.fail .badType

end Stencil.Method

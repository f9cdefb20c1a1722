import Stencil.Method.Sequence

/-! # Methods of double-ended queues

A queue of limited length lets items fall out at the other end when one is added
at an end, and refuses to take one in between.
-/

namespace Stencil.Method

/-- Items turned so that the last `n` come first. -/
def rotated (xs : List Value) (n : Int) : List Value :=
  if xs.isEmpty then xs
  else
    let k := xs.length - (n % (xs.length : Int)).toNat
    xs.drop k ++ xs.take k

/-- The first items that a queue of limited length keeps. -/
def keepFirst (limit : Option Nat) (xs : List Value) : List Value :=
  match limit with
  | none => xs
  | some n => xs.take n

def callDeque (a : Address) (xs : List Value) (limit : Option Nat) (name : String)
    (args : List Value) : Act Value := do
  let become (ys : List Value) : Act Value := do
    Act.put a (.deque ys limit)
    pure .nothing
  match name, args with
  | "index", args => indexIn xs args
  | "count", args => countIn xs args
  | "__contains__", args => contains xs args
  | "__len__", [] => pure (.int xs.length)
  | "append", [v] => become (keepLast limit (xs ++ [v]))
  | "appendleft", [v] => become (keepFirst limit (v :: xs))
  | "insert", [i, v] => do
      let i ← Act.orFail .badType i.integer?
      Act.require .badIndex (limit.all fun n => xs.length < n)
      let n := insertionAt xs.length i
      become (xs.take n ++ v :: xs.drop n)
  | "copy", [] => Act.allocate (.deque xs limit)
  | "extend", [v] => do
      let s ← get
      let ys ← Act.orFail .badType (s.iterate? v)
      become (keepLast limit (xs ++ ys))
  | "pop", [] =>
      match xs.getLast? with
      | some v => do
          Act.put a (.deque xs.dropLast limit)
          pure v
      | none => Act.fail .badIndex
  | "popleft", [] =>
      match xs with
      | v :: ys => do
          Act.put a (.deque ys limit)
          pure v
      | [] => Act.fail .badIndex
  | "rotate", [] => become (rotated xs 1)
  | "rotate", [v] => do
      let n ← Act.orFail .badType v.integer?
      become (rotated xs n)
  | "reverse", [] => become xs.reverse
  | "remove", [v] => do
      let s ← get
      let n ← Act.orFail .badValue (positionOf s v 0 xs)
      become (xs.eraseIdx n)
  | "clear", [] => become []
  | _, _ => Act.fail .badType

end Stencil.Method

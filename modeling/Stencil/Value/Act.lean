import Stencil.Literal.Basic
import Stencil.Value.Expand

/-! # Acting on values

What a method does: it may change the store, give a value, or fail. Changes made
before a failure stay. This file has the action type and the small steps that
methods are made of.
-/

namespace Stencil

/-- An action on the store that gives a result or a fault. -/
abbrev Act (α : Type) := ExceptT Fault (StateM Store) α

namespace Act

def fail {α : Type} (k : FaultKind) : Act α := throw ⟨k, []⟩

def allocate (c : Cell) : Act Value := do
  let s ← get
  let (a, s) := s.allocate c
  set s
  pure (.ref a)

def put (a : Address) (c : Cell) : Act Unit := do
  let s ← get
  set (s.put a c)

/-- The value of an optional one; its absence is a fault. -/
def orFail {α : Type} (k : FaultKind) : Option α → Act α
  | some v => pure v
  | none => fail k

def require (k : FaultKind) (b : Bool) : Act Unit := if b then pure () else fail k

end Act

/-- The last items that a queue of limited length keeps. -/
def keepLast (limit : Option Nat) (xs : List Value) : List Value :=
  match limit with
  | none => xs
  | some n => xs.drop (xs.length - n)

namespace Literal

mutual
/-- A literal as a value; each container becomes a new cell. -/
def build : Literal → Store → Value × Store
  | scalar x, s => (.scalar x, s)
  | list xs, s =>
      let (vs, s) := buildAll xs s
      let (a, s) := s.allocate (.list vs)
      (.ref a, s)
  | tuple xs, s =>
      let (vs, s) := buildAll xs s
      let (a, s) := s.allocate (.tuple vs)
      (.ref a, s)
  | set xs, s =>
      let (vs, s) := buildAll xs s
      let (a, s) := s.allocate (.set false vs)
      (.ref a, s)
  | dict es, s =>
      let (vs, s) := buildEntries es s
      let (a, s) := s.allocate (.map .plain vs)
      (.ref a, s)

def buildAll : List Literal → Store → List Value × Store
  | [], s => ([], s)
  | x :: xs, s =>
      let (v, s) := build x s
      let (vs, s) := buildAll xs s
      (v :: vs, s)

def buildEntries : List (Literal × Literal) → Store → List (Value × Value) × Store
  | [], s => ([], s)
  | (k, v) :: es, s =>
      let (k, s) := build k s
      let (v, s) := build v s
      let (vs, s) := buildEntries es s
      ((k, v) :: vs, s)
end

end Literal

namespace Value

/-- An integer value; truth values count as zero and one. -/
def integer? : Value → Option Int
  | scalar (.int i) => some i
  | scalar (.bool b) => some (if b then 1 else 0)
  | _ => Option.none

def text? : Value → Option Text
  | scalar (.text t) => some t
  | _ => Option.none

/-- The sum of two real numbers. -/
def sum? (v w : Value) : Option Value :=
  let float? : Value → Option Binary64
    | scalar (.float x) => some x
    | v => v.integer?.bind Binary64.ofInt?
  match v.integer?, w.integer? with
  | some i, some j => some (.int (i + j))
  | _, _ =>
      match float? v, float? w with
      | some x, some y => some (.float (x.add y))
      | _, _ => Option.none

end Value

namespace Store

/-- The list cell a list or an object around a list stands for, with its items. -/
def listAt? (s : Store) (a : Address) : Option (Address × List Value) :=
  match s[a]? with
  | some (.list xs) => some (a, xs)
  | some (.wrappedList b) =>
      match s[b]? with
      | some (.list xs) => some (b, xs)
      | _ => none
  | _ => none

/-- The cell of a mapping or of what is around one, with its style and entries. -/
def mapAt? (s : Store) (a : Address) : Option (Address × MapStyle × List (Value × Value)) :=
  match s[a]? with
  | some (.map style es) => some (a, style, es)
  | some (.wrappedMap b) | some (.proxy b) =>
      match s[b]? with
      | some (.map style es) => some (b, style, es)
      | _ => none
  | _ => none

def lookup? (s : Store) (es : List (Value × Value)) (k : Value) : Option Value :=
  (es.find? fun e => s.equal e.1 k).map (·.2)

/-- Entries with a value for a key; a key that is there keeps its place and form. -/
def insertEntry (s : Store) : List (Value × Value) → Value → Value → List (Value × Value)
  | [], k, v => [(k, v)]
  | e :: es, k, v => if s.equal e.1 k then (e.1, v) :: es else e :: insertEntry s es k v

def removeEntry (s : Store) (es : List (Value × Value)) (k : Value) : List (Value × Value) :=
  es.filter fun e => !s.equal e.1 k

/-- The values that iterating a value gives; none for what cannot be iterated. -/
def iterate? (s : Store) (v : Value) : Option (List Value) :=
  match v with
  | .scalar (.text t) => some (t.map fun c => .text [c])
  | .scalar (.bytes bs) => some (bs.map fun b => .int b.toNat)
  | .range a b c =>
      some ((List.range (Value.rangeLength a b c)).map fun (i : Nat) => .int (a + c * (i : Int)))
  | .ref a =>
      match s[a]? with
      | some (.list xs) | some (.tuple xs) | some (.set _ xs) | some (.deque xs _) => some xs
      | some (.array _ xs) => some (xs.map .scalar)
      | some (.namedTuple _ es) => some (es.map (·.2))
      | some (.wrappedList _) => (s.listAt? a).map (·.2)
      | some _ => (s.mapAt? a).map fun m => m.2.2.map (·.1)
      | none => none
  | .view kind a =>
      match kind with
      | .keys => (s.mapAt? a).map fun m => m.2.2.map (·.1)
      | .values => (s.mapAt? a).map fun m => m.2.2.map (·.2)
      | .items => none
  | _ => none

/-- Whether a value counts as true: not when it is nothing, a zero or empty. -/
def isTrue (s : Store) (v : Value) : Bool :=
  match v with
  | .scalar .none => false
  | .scalar (.bool b) => b
  | .scalar (.int i) => i != 0
  | .scalar (.float x) => !x.isZero
  | .scalar (.complex re im) => !(re.isZero && im.isZero)
  | .scalar (.text t) => !t.isEmpty
  | .scalar (.bytes bs) => !bs.isEmpty
  | .decimal (.finite _ c _) => c != 0
  | .range a b c => Value.rangeLength a b c != 0
  | .ref a =>
      match s[a]? with
      | some (.custom _) | some (.function _) | some (.record ..) | some (.bag _) => true
      | _ =>
          match s.iterate? v with
          | some xs => !xs.isEmpty
          | none => true
  | _ => true

end Store

end Stencil

import Stencil.Value.Access

/-! # Methods of mappings and sets

Every mapping keeps its entries in the order their keys came. A key that cannot
be one is a fault before anything is looked up or changed.
-/

namespace Stencil.Method

def asKey (v : Value) : Act Value := do
  let s ← get
  Act.require .badType (s.hashable v)
  pure v

/-- The value of a key, or a standard one. -/
def getEntry (es : List (Value × Value)) (key standard : Value) : Act Value := do
  let key ← asKey key
  let s ← get
  pure ((s.lookup? es key).getD standard)

def popEntry (a : Address) (style : MapStyle) (es : List (Value × Value)) (key : Value)
    (standard : Option Value) : Act Value := do
  let key ← asKey key
  let s ← get
  match s.lookup? es key with
  | some v => do
      Act.put a (.map style (s.removeEntry es key))
      pure v
  | none => Act.orFail .missingKey standard

/-- Two values out of one that stands for an entry. -/
def entryOf (v : Value) : Act (Value × Value) := do
  let s ← get
  let xs ← Act.orFail .badType (s.iterate? v)
  match xs with
  | [k, w] => pure (k, w)
  | _ => Act.fail .badValue

def putEntries (a : Address) (style : MapStyle) : List (Value × Value) → List (Value × Value) →
    Act Unit
  | es, [] => Act.put a (.map style es)
  | es, (k, v) :: more => do
      Act.put a (.map style es)
      let k ← asKey k
      let s ← get
      putEntries a style (s.insertEntry es k v) more

/-- Puts the entries that pairs stand for into a mapping one after the other; what is no pair ends
    that. -/
def putPairs (a : Address) (style : MapStyle) : List (Value × Value) → List Value → Act Unit
  | es, [] => Act.put a (.map style es)
  | es, pair :: more => do
      Act.put a (.map style es)
      let (k, v) ← entryOf pair
      let k ← asKey k
      let s ← get
      putPairs a style (s.insertEntry es k v) more

/-- The entries of a mapping, none for what is not one. -/
def mappedEntries (v : Value) : Act (Option (List (Value × Value))) := do
  let s ← get
  pure (match v with
    | .ref a => (s.mapAt? a).map fun m => m.2.2
    | _ => none)

/-- Puts the entries of a mapping, or those that a sequence of pairs stands for, into a mapping. -/
def updateEntries (a : Address) (style : MapStyle) (es : List (Value × Value)) (v : Value) :
    Act Unit := do
  match ← mappedEntries v with
  | some more => putEntries a style es more
  | none => do
      let s ← get
      let pairs ← Act.orFail .badType (s.iterate? v)
      putPairs a style es pairs

/-- Adds counts to a mapping of counts one after the other. -/
def addCounts (a : Address) : List (Value × Value) → List (Value × Value) → Act Unit
  | es, [] => Act.put a (.map .counting es)
  | es, (k, n) :: more => do
      let s ← get
      let sum := if s.hashable k then n.sum? ((s.lookup? es k).getD (.int 0)) else none
      match sum with
      | some m => addCounts a (s.insertEntry es k m) more
      | none =>
          Act.put a (.map .counting es)
          Act.fail .badType

/-- Counts what a value gives, or adds the counts of a mapping. -/
def updateCounts (a : Address) (es : List (Value × Value)) (v : Value) : Act Unit := do
  match ← mappedEntries v with
  | some more => if es.isEmpty then putEntries a .counting es more else addCounts a es more
  | none => do
      let s ← get
      let xs ← Act.orFail .badType (s.iterate? v)
      addCounts a es (xs.map fun x => (x, .int 1))

/-- The sum of values, from zero. -/
def totalOf : Value → List Value → Act Value
  | sum, [] => pure sum
  | sum, v :: vs => do
      let sum ← Act.orFail .badType (sum.sum? v)
      totalOf sum vs

/-- The most common entries as pairs, all of them or so many. -/
def mostCommon (es : List (Value × Value)) (count : Option Nat) : Act Value := do
  let s ← get
  let sorted ← Act.orFail .badType (Cell.byCount s es)
  let sorted := match count with
    | some n => sorted.take n
    | none => sorted
  let pairs ← sorted.mapM fun e => Act.allocate (.tuple [e.1, e.2])
  Act.allocate (.list pairs)

/-- Calls a method of the mapping whose entries are at an address. `face` is the address the method
    was taken from, which is another one for an object around a mapping. -/
def callMapping (face a : Address) (style : MapStyle) (es : List (Value × Value)) (name : String)
    (args : List Value) : Act Value := do
  match name, args with
  | "get", [k] => getEntry es k .nothing
  | "get", [k, d] => getEntry es k d
  | "keys", [] => pure (.view .keys face)
  | "values", [] => pure (.view .values face)
  | "items", [] => pure (.view .items face)
  | "__len__", [] => pure (.int es.length)
  | "__contains__", [k] => do
      let k ← asKey k
      let s ← get
      pure (.truth (s.lookup? es k).isSome)
  | "pop", [k] => popEntry a style es k none
  | "pop", [k, d] => popEntry a style es k (some d)
  | "setdefault", k :: rest => do
      Act.require .badType (rest.length ≤ 1)
      let k ← asKey k
      let s ← get
      match s.lookup? es k with
      | some v => pure v
      | none => do
          let v := (rest[0]?).getD .nothing
          Act.put a (.map style (es ++ [(k, v)]))
          pure v
  | "popitem", args => do
      let fromEnd ← match args with
        | [] => pure true
        | [v] => do
            Act.require .badType (style == .ordered)
            let s ← get
            pure (s.isTrue v)
        | _ => Act.fail .badType
      match (if fromEnd then es.getLast? else es.head?) with
      | some e => do
          Act.put a (.map style (if fromEnd then es.dropLast else es.drop 1))
          Act.allocate (.tuple [e.1, e.2])
      | none => Act.fail .missingKey
  | "update", args => do
      match args with
      | [] => pure ()
      | [v] =>
          if style = .counting then updateCounts a es v else updateEntries a style es v
      | _ => Act.fail .badType
      pure .nothing
  | "copy", [] => Act.allocate (.map style es)
  | "clear", [] => do
      Act.put a (.map style [])
      pure .nothing
  | "most_common", [] => mostCommon es none
  | "most_common", [.scalar .none] => mostCommon es none
  | "most_common", [v] => do
      let n ← Act.orFail .badType v.integer?
      mostCommon es (some n.toNat)
  | "total", [] => totalOf (.int 0) (es.map (·.2))
  | _, _ => Act.fail .badType

def callSet (a : Address) (xs : List Value) (name : String) (args : List Value) : Act Value := do
  let become (ys : List Value) : Act Value := do
    Act.put a (.set false ys)
    pure .nothing
  match name, args with
  | "__len__", [] => pure (.int xs.length)
  | "__contains__", [v] => do
      let v ← asKey v
      let s ← get
      pure (.truth (xs.any fun x => s.equal x v))
  | "add", [v] => do
      let v ← asKey v
      let s ← get
      if xs.any fun x => s.equal x v then pure .nothing else become (xs ++ [v])
  | "discard", [v] => do
      let v ← asKey v
      let s ← get
      become (xs.filter fun x => !s.equal x v)
  | "remove", [v] => do
      let v ← asKey v
      let s ← get
      Act.require .missingKey (xs.any fun x => s.equal x v)
      become (xs.filter fun x => !s.equal x v)
  | "pop", [] =>
      match xs with
      | v :: ys => do
          Act.put a (.set false ys)
          pure v
      | [] => Act.fail .missingKey
  | "clear", [] => become []
  | "copy", [] => Act.allocate (.set false xs)
  | _, _ => Act.fail .badType

end Stencil.Method

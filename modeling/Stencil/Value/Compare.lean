import Stencil.Value.Basic

/-! # Equality and order of values

Numbers of all kinds compare by value, containers by content, and objects with
behaviour of their own by identity. Values compared here come from literals on
one side, so a comparison never goes deeper than there are cells; the depth
given at the entry points is that bound.
-/

namespace Stencil

namespace Value

/-- A value as a comparable number; NaNs and what is no number have none. -/
def number? : Value → Option Extended
  | scalar (.bool b) => some (.ratio (if b then 1 else 0) 1)
  | scalar (.int i) => some (.ratio i 1)
  | scalar (.float x) => x.extended?
  | decimal d => d.extended?
  | _ => none

/-- Whether a value belongs to the numbers, NaNs and complex numbers included. -/
def isNumber : Value → Bool
  | scalar (.bool _) | scalar (.int _) | scalar (.float _) | scalar (.complex ..) | decimal _ => true
  | _ => false

def equalNumbers (v w : Value) : Bool :=
  match v, w with
  | scalar a, scalar b => a.same b
  | scalar (.complex re im), d | d, scalar (.complex re im) =>
      (Scalar.complex re im).same (.complex re (Binary64.zero false)) &&
        equalReals (scalar (.float re)) d
  | v, w => equalReals v w
where
  /-- Equality of real numbers. -/
  equalReals (v w : Value) : Bool :=
    match v.number?, w.number? with
    | some a, some b => a.order b == .eq
    | _, _ => false

def rangeLength (start stop step : Int) : Nat :=
  if step > 0 then ((stop - start + step - 1) / step).toNat
  else if step < 0 then ((start - stop - step - 1) / (-step)).toNat
  else 0

end Value

/-- The items of a sequence that compares item by item, with the kinds that compare with each
    other told apart. -/
def Cell.sequence? (s : Store) : Cell → Option (Nat × List Value)
  | .list xs => some (0, xs)
  | .wrappedList a =>
      match s[a]? with
      | some (.list xs) => some (0, xs)
      | _ => none
  | .tuple xs => some (1, xs)
  | .namedTuple _ es => some (1, es.map (·.2))
  | .deque xs _ => some (2, xs)
  | .array _ xs => some (3, xs.map .scalar)
  | _ => none

def Cell.entries? (s : Store) : Cell → Option (List (Value × Value))
  | .map _ es => some es
  | .wrappedMap a | .proxy a =>
      match s[a]? with
      | some (.map _ es) => some es
      | _ => none
  | _ => none

/-- Equality of two lists of values under an equality of values. -/
def equalLists (eq : Value → Value → Bool) : List Value → List Value → Bool
  | [], [] => true
  | x :: xs, y :: ys => eq x y && equalLists eq xs ys
  | _, _ => false

def equalWithin (s : Store) : (depth : Nat) → Value → Value → Bool
  | 0, _, _ => false
  | depth + 1, v, w =>
      let eq := equalWithin s depth
      let sameEntries (es fs : List (Value × Value)) : Bool :=
        es.length == fs.length &&
          es.all fun e => fs.any fun f => eq e.1 f.1 && eq e.2 f.2
      match v, w with
      | .ref a, .ref b =>
          if a = b then true
          else match s[a]?, s[b]? with
            | some (.set _ xs), some (.set _ ys) =>
                xs.length == ys.length && xs.all fun x => ys.any (eq x)
            | some (.map .ordered es), some (.map .ordered fs) =>
                equalLists eq (es.map (·.1)) (fs.map (·.1)) &&
                  equalLists eq (es.map (·.2)) (fs.map (·.2))
            | some (.bag es), some (.bag fs) =>
                es.length == fs.length &&
                  es.all fun e => fs.any fun f => e.1 == f.1 && eq e.2 f.2
            | some (.record t xs), some (.record u ys) => t == u && equalLists eq xs ys
            | some c, some d =>
                match c.sequence? s, d.sequence? s with
                | some (k, xs), some (l, ys) => k == l && equalLists eq xs ys
                | _, _ =>
                    match c.entries? s, d.entries? s with
                    | some es, some fs => sameEntries es fs
                    | _, _ => false
            | _, _ => false
      | .range a b c, .range d e f =>
          let n := Value.rangeLength a b c
          n == Value.rangeLength d e f && (n == 0 || (a == d && (n == 1 || c == f)))
      | v, w => if v.isNumber && w.isNumber then v.equalNumbers w else v == w

def Store.equal (s : Store) (v w : Value) : Bool := equalWithin s (s.length + 1) v w

/-- Whether a value may be a key, to a depth. -/
def hashableWithin (s : Store) : (depth : Nat) → Value → Bool
  | 0, _ => false
  | depth + 1, v =>
      match v with
      | .ref a =>
          match s[a]? with
          | some (.tuple xs) => xs.all (hashableWithin s depth)
          | some (.namedTuple _ es) => es.all fun e => hashableWithin s depth e.2
          | some (.set frozen _) => frozen
          | some (.function _) | some (.custom _) => true
          | _ => false
      | _ => true

/-- Whether a value may be a key: it must not be able to change. -/
def Store.hashable (s : Store) (v : Value) : Bool := hashableWithin s (s.length + 1) v

/-- Lexicographic order of texts by character code. -/
def lessText : Text → Text → Bool
  | [], [] => false
  | [], _ :: _ => true
  | _ :: _, [] => false
  | c :: s, d :: t => c.toNat < d.toNat || (c == d && lessText s t)

/-- Lexicographic order of lists: the first two items that differ decide, else the length. -/
def lessLists (eq : Value → Value → Bool) (less : Value → Value → Option Bool) :
    List Value → List Value → Option Bool
  | [], ys => some !ys.isEmpty
  | _ :: _, [] => some false
  | x :: xs, y :: ys => if eq x y then lessLists eq less xs ys else less x y

/-- Whether one value comes before another, to a depth; none when they have no order. -/
def lessWithin (s : Store) : (depth : Nat) → Value → Value → Option Bool
  | 0, _, _ => none
  | depth + 1, v, w =>
      match v, w with
      | .scalar (.text a), .scalar (.text b) => some (lessText a b)
      | .scalar (.bytes a), .scalar (.bytes b) =>
          some (lessText (a.map fun x => Char.ofNat x.toNat) (b.map fun x => Char.ofNat x.toNat))
      | .ref a, .ref b =>
          match s[a]?, s[b]? with
          | some (.set _ xs), some (.set _ ys) =>
              some (xs.length < ys.length && xs.all fun x => ys.any (equalWithin s depth x))
          | some c, some d =>
              match c.sequence? s, d.sequence? s with
              | some (k, xs), some (l, ys) =>
                  if k == l then lessLists (s.equal) (lessWithin s depth) xs ys else none
              | _, _ => none
          | _, _ => none
      | v, w =>
          let ordered : Value → Bool
            | .scalar (.complex ..) => false
            | v => v.isNumber
          if ordered v && ordered w then
            match v.number?, w.number? with
            | some a, some b => some (a.order b == .lt)
            | _, _ => some false
          else none

/-- Whether one value comes before another; none when they have no order. -/
def Store.less? (s : Store) (v w : Value) : Option Bool := lessWithin s (s.length + 1) v w

/-! ## Sorting

Items are put in order by insertion into a growing sorted part, the place found
by halving. When two items have no order the sort stops there and what has been
sorted so far stays so.
-/

/-- Where an item goes in a sorted part: behind all items it does not come before. -/
def insertionPoint {α : Type} (less : α → α → Option Bool) (x : α) (sorted : Array α)
    (low high : Nat) : Option Nat :=
  if _h : low < high then
    let middle := low + (high - low) / 2
    match less x (sorted.getD middle x) with
    | none => none
    | some true => insertionPoint less x sorted low middle
    | some false => insertionPoint less x sorted (middle + 1) high
  else some low
termination_by high - low
decreasing_by all_goals omega

/-- Puts the remaining items into the sorted part. The second result says whether all of them had
    an order. -/
def insertAll {α : Type} (less : α → α → Option Bool) : (sorted : List α) → List α →
    List α × Bool
  | sorted, [] => (sorted, true)
  | sorted, x :: rest =>
      match insertionPoint less x sorted.toArray 0 sorted.length with
      | none => (sorted ++ x :: rest, false)
      | some i => insertAll less (sorted.take i ++ x :: sorted.drop i) rest

/-- The length of the run that starts with two items: rising, or falling when `falling`. -/
def runLength {α : Type} (less : α → α → Option Bool) (falling : Bool) : α → List α →
    Option Nat
  | _, [] => some 1
  | x, y :: rest =>
      match less y x with
      | none => none
      | some b => if b == falling then (runLength less falling y rest).map (· + 1) else some 1

/-- Sorts items, equal ones in their old order. A falling run at the start is turned round first. -/
def sortItems {α : Type} (less : α → α → Option Bool) (xs : List α) : List α × Bool :=
  match xs with
  | x :: y :: rest =>
      match less y x with
      | none => (xs, false)
      | some falling =>
          match runLength less falling x (y :: rest) with
          | none => (xs, false)
          | some n =>
              let run := xs.take n
              insertAll less (if falling then run.reverse else run) (xs.drop n)
  | _ => (xs, true)

end Stencil

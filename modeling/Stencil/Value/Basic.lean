import Stencil.Fault
import Stencil.Number.Decimal
import Stencil.Scalar

/-! # Values and the store

A value is either complete in itself or the address of a cell. Every container
is a cell, so that sharing, cycles and changes in place are all said by
addresses; two references are the same object exactly if their addresses agree.
-/

namespace Stencil

abbrev Address := Nat

/-- A record type: its name, the module it is shown with, its fields with whether each is shown,
    and the names of its methods. -/
structure RecordType where
  name : Text
  module : Text
  fields : List (Text × Bool)
  methods : List Text
  deriving DecidableEq, Repr, Inhabited

inductive TypeValue where
  /-- A type known by its name, and by its name with module. -/
  | named (name qualified : Text)
  | record (type : RecordType)
  deriving DecidableEq, Repr, Inhabited

/-- What a view of a mapping shows. -/
inductive ViewKind where
  | keys | values | items
  deriving DecidableEq, Repr, Inhabited

inductive Value where
  | scalar (s : Scalar)
  | decimal (d : Decimal)
  /-- The integers from `start` to `stop`, `stop` excluded, by `step`. -/
  | range (start stop step : Int)
  | type (t : TypeValue)
  /-- The answer of an operation to an operand it does not know. -/
  | notImplemented
  /-- A live view of the mapping at an address. -/
  | view (kind : ViewKind) (address : Address)
  /-- A method taken from its owner and not called yet. -/
  | method (owner : Value) (name : Text)
  | ref (address : Address)
  deriving DecidableEq, Repr, Inhabited

namespace Value

abbrev nothing : Value := .scalar .none

abbrev truth (b : Bool) : Value := .scalar (.bool b)

abbrev int (i : Int) : Value := .scalar (.int i)

abbrev float (x : Binary64) : Value := .scalar (.float x)

abbrev text (t : Text) : Value := .scalar (.text t)

end Value

/-- How a mapping is shown and what it does with a missing key. -/
inductive MapStyle where
  | plain
  /-- Shown as a list of pairs. -/
  | ordered
  /-- Counts, shown from the most common on; a missing key counts zero. -/
  | counting
  /-- A missing key is added with the value zero. -/
  | defaulting
  deriving DecidableEq, Repr, Inhabited

/-- What a function does. -/
inductive Behaviour where
  /-- Gives its arguments back as a tuple. -/
  | echo
  | give (v : Value)
  | fail (f : Fault)
  deriving Repr, Inhabited

/-- The text an object gives when it is asked for one. -/
inductive Speech where
  | plain (t : Text)
  | fail (f : Fault)
  deriving Repr, Inhabited

/-- What an object does with a format spec. -/
inductive FormatHook where
  | speech (s : Speech)
  /-- Shows the spec it is given. -/
  | echo
  deriving Repr, Inhabited

/-- An object with behaviour of its own. It equals itself only. -/
structure Custom where
  name : Text
  /-- The text it is shown by. -/
  shown : Speech
  /-- The text it converts to, when it is another one. -/
  spoken : Option Speech
  format : Option FormatHook
  attributes : List (Text × Value)
  attributeFaults : List (Text × FaultKind)
  call : Option Behaviour
  itemFault : Option FaultKind
  deriving Repr, Inhabited

inductive Cell where
  | list (items : List Value)
  | tuple (items : List Value)
  | set (frozen : Bool) (items : List Value)
  | deque (items : List Value) (maxLength : Option Nat)
  /-- A list-like object around the list at an address. -/
  | wrappedList (data : Address)
  /-- Items of one machine type, named by its code. -/
  | array (code : Char) (items : List Scalar)
  | map (style : MapStyle) (entries : List (Value × Value))
  /-- A mapping-like object around the mapping at an address. -/
  | wrappedMap (data : Address)
  /-- A read-only face of the mapping at an address. -/
  | proxy (target : Address)
  /-- Named attributes and nothing else. -/
  | bag (entries : List (Text × Value))
  | namedTuple (name : Text) (entries : List (Text × Value))
  | record (type : RecordType) (values : List Value)
  | function (b : Behaviour)
  | custom (c : Custom)
  deriving Repr, Inhabited

/-- All cells, by address. -/
abbrev Store := List Cell

namespace Store

/-- The store with one more cell, and its address. -/
def allocate (s : Store) (c : Cell) : Address × Store := (s.length, s ++ [c])

/-- The store with another content of one cell. -/
def put (s : Store) (a : Address) (c : Cell) : Store := s.set a c

/-- How many cells are not among `seen`. It bounds every descent that enters no cell twice. -/
def unseen (s : Store) (seen : List Address) : Nat :=
  ((List.range s.length).filter fun a => a ∉ seen).length

theorem unseen_cons_lt {s : Store} {seen : List Address} {a : Address} {c : Cell}
    (fresh : a ∉ seen) (found : s[a]? = some c) : s.unseen (a :: seen) < s.unseen seen := by
  have ha : a < s.length := (List.getElem?_eq_some_iff.1 found).1
  have split : ((List.range s.length).filter fun b => b ∉ a :: seen) =
      ((List.range s.length).filter fun b => b ∉ seen).filter (· ≠ a) := by
    rw [List.filter_filter]
    congr 1
    funext b
    by_cases h : b = a <;> simp [h]
  unfold unseen
  rw [split]
  apply List.length_filter_lt_length_iff_exists.2
  exact ⟨a, by simp [ha, fresh], by simp⟩

end Store

end Stencil

import Stencil.Scalar

/-! # Literals

Data that can be written down: scalars, and lists, tuples, sets and dictionaries
of literals. Literals are trees. They have no identity and nothing changes them.
-/

namespace Stencil

/-- Data that can be written down. -/
inductive Literal where
  | scalar (s : Scalar)
  | list (items : List Literal)
  | tuple (items : List Literal)
  | set (items : List Literal)
  | dict (entries : List (Literal × Literal))
  deriving Repr, Inhabited

namespace Literal

mutual
def display : Literal → Text
  | scalar s => s.display
  | list xs => '[' :: displayAll xs ++ [']']
  | tuple [x] => '(' :: display x ++ [',', ')']
  | tuple xs => '(' :: displayAll xs ++ [')']
  | set [] => "set()"
  | set xs => '{' :: displayAll xs ++ ['}']
  | dict es => '{' :: displayEntries es ++ ['}']

/-- The texts of literals, separated by commas. -/
def displayAll : List Literal → Text
  | [] => []
  | [x] => display x
  | x :: y :: xs => display x ++ ", " ++ displayAll (y :: xs)

/-- The texts of keys and values, separated by commas. -/
def displayEntries : List (Literal × Literal) → Text
  | [] => []
  | [(k, v)] => display k ++ ": " ++ display v
  | (k, v) :: e :: es => display k ++ ": " ++ display v ++ ", " ++ displayEntries (e :: es)
end

mutual
def hashable : Literal → Bool
  | scalar _ => true
  | tuple xs => allHashable xs
  | _ => false

def allHashable : List Literal → Bool
  | [] => true
  | x :: xs => hashable x && allHashable xs
end

mutual
def sameKey : Literal → Literal → Bool
  | scalar a, scalar b => a.same b
  | tuple xs, tuple ys => sameKeys xs ys
  | _, _ => false

def sameKeys : List Literal → List Literal → Bool
  | [], [] => true
  | x :: xs, y :: ys => sameKey x y && sameKeys xs ys
  | _, _ => false
end

/-- A set's items with one more; an item that is there already stays as it is. -/
def insertItem (items : List Literal) (x : Literal) : List Literal :=
  if items.any (sameKey x) then items else items ++ [x]

/-- Entries with a value for a key. A key that is there already keeps its place and form. -/
def insertEntry : List (Literal × Literal) → Literal → Literal → List (Literal × Literal)
  | [], k, v => [(k, v)]
  | (k', v') :: es, k, v =>
      if sameKey k' k then (k', v) :: es else (k', v') :: insertEntry es k v

end Literal

end Stencil

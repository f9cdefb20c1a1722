import Stencil.Literal.Basic

/-! # Expressions

What an expression is made of, as far as it matters for being a literal, and the
literal it comes to. Parts are looked at from left to right, and the first one
that is no literal, no key or out of range settles the whole.
-/

namespace Stencil.Literal

/-- An expression. What is no literal anyway is kept only as far as it may be assigned to. -/
inductive Expression where
  | constant (s : Scalar)
  | name (t : Text)
  /-- An attribute or an item of something. -/
  | access
  | signed (negative : Bool) (operand : Expression)
  /-- A sum, or a difference if the right side is taken off. -/
  | sum (left : Expression) (negative : Bool) (right : Expression)
  | tuple (items : List Expression)
  | list (items : List Expression)
  | set (items : List Expression)
  /-- Keys and values. Entries that are unpacked have no key of their own. -/
  | dict (entries : List (Expression × Expression))
  | emptySet
  | starred (operand : Expression)
  /-- A name that is given a value on the way. -/
  | assigned
  | other
  deriving Repr, Inhabited

/-- Why a text cannot be read as a literal. -/
inductive ReadFault where
  | notLiteral
  /-- An integer too large to be part of a complex number. -/
  | overflow
  deriving DecidableEq, Repr

def negated : Scalar → Scalar
  | .int i => .int (-i)
  | .float x => .float x.neg
  | .complex re im => .complex re.neg im.neg
  | s => s

/-- A real number plus or minus an imaginary one. -/
def complexOf (real : Binary64) (negative : Bool) (re im : Binary64) : Scalar :=
  if negative then .complex (real.add re.neg) ((Binary64.zero false).add im.neg)
  else .complex (real.add re) ((Binary64.zero false).add im)

/-- A real number with a complex one added to it or taken off. -/
def addComplex (left : Scalar) (negative : Bool) (right : Scalar) : Except ReadFault Literal :=
  match left, right with
  | .int i, .complex re im =>
      match Binary64.ofInt? i with
      | some x => .ok (.scalar (complexOf x negative re im))
      | none => .error .overflow
  | .float x, .complex re im => .ok (.scalar (complexOf x negative re im))
  | _, _ => .error .notLiteral

namespace Expression

def number? : Expression → Option Scalar
  | constant (.int i) => some (.int i)
  | constant (.float x) => some (.float x)
  | constant (.complex re im) => some (.complex re im)
  | _ => none

/-- A number with at most one sign in front. -/
def signedNumber? : Expression → Option Scalar
  | signed negative e => e.number?.map fun s => if negative then negated s else s
  | e => e.number?

mutual
/-- The literal that an expression is. -/
def evaluate : Expression → Except ReadFault Literal
  | constant s => .ok (.scalar s)
  | signed negative e =>
      match (signed negative e).signedNumber? with
      | some s => .ok (.scalar s)
      | none => .error .notLiteral
  | sum left negative right =>
      match left.signedNumber?, right.number? with
      | some s, some u => addComplex s negative u
      | _, _ => .error .notLiteral
  | tuple es => (evaluateAll es).map .tuple
  | list es => (evaluateAll es).map .list
  | set es => (evaluateItems [] es).map .set
  | dict es => (evaluateEntries [] es).map .dict
  | emptySet => .ok (.set [])
  | _ => .error .notLiteral

def evaluateAll : List Expression → Except ReadFault (List Literal)
  | [] => .ok []
  | e :: es => do
      let x ← evaluate e
      let xs ← evaluateAll es
      .ok (x :: xs)

/-- The items of a set, behind those that are there already. -/
def evaluateItems (items : List Literal) : List Expression → Except ReadFault (List Literal)
  | [] => .ok items
  | e :: es => do
      let x ← evaluate e
      if x.hashable then evaluateItems (insertItem items x) es else .error .notLiteral

/-- The entries of a dictionary, behind those that are there already. -/
def evaluateEntries (entries : List (Literal × Literal)) :
    List (Expression × Expression) → Except ReadFault (List (Literal × Literal))
  | [] => .ok entries
  | (e, f) :: es => do
      let k ← evaluate e
      let v ← evaluate f
      if k.hashable then evaluateEntries (insertEntry entries k v) es else .error .notLiteral
end

mutual
def assignable : Expression → Bool
  | name _ | access => true
  | tuple es | list es => allAssignable es
  | _ => false

/-- Whether expressions, perhaps starred, may be assigned to. -/
def allAssignable : List Expression → Bool
  | [] => true
  | starred e :: es => assignable e && allAssignable es
  | e :: es => assignable e && allAssignable es
end

end Expression

end Stencil.Literal

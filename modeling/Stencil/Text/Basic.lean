/-! # Text as a list of characters

Lengths, positions and widths all count characters, so text is worked on as the
list of its characters. This file has the searches and cuts the rest is built
from; it knows nothing of what the text means.
-/

namespace Stencil

/-- Text as the list of its characters. -/
abbrev Text := List Char

instance : Coe String Text := ⟨String.toList⟩

namespace Text

/-- The parts with `sep` between each two of them. -/
def joinWith (sep : Text) : List Text → Text
  | [] => []
  | [t] => t
  | t :: u :: ts => t ++ sep ++ joinWith sep (u :: ts)

def startsWith (t part : Text) : Bool := part.isPrefixOf t

def endsWith (t part : Text) : Bool := part.isSuffixOf t

/-- The offset of the first occurrence of `part`, found by trying each start in turn. -/
def find? (part : Text) : Text → Option Nat
  | [] => if part.isEmpty then some 0 else none
  | c :: t => if part.isPrefixOf (c :: t) then some 0 else (find? part t).map (· + 1)

/-- Replacement with `skip` characters of an occurrence still to be passed over. -/
def replaceFrom (old new : Text) : (skip : Nat) → Text → Text
  | _, [] => []
  | skip + 1, _ :: t => replaceFrom old new skip t
  | 0, c :: t =>
      if old.isPrefixOf (c :: t) then new ++ replaceFrom old new (old.length - 1) t
      else c :: replaceFrom old new 0 t

/-- Every occurrence of `old`, leftmost first and without overlap, becomes `new`. The empty
    text occurs before each character and at the end. -/
def replaceAll (old new t : Text) : Text :=
  if old.isEmpty then new ++ t.flatMap (fun c => c :: new) else replaceFrom old new 0 t

/-- The occurrences of a nonempty `part` without overlap, `skip` characters still to be passed. -/
def countFrom (part : Text) : (skip : Nat) → Text → Nat
  | _, [] => 0
  | skip + 1, _ :: t => countFrom part skip t
  | 0, c :: t =>
      if part.isPrefixOf (c :: t) then countFrom part (part.length - 1) t + 1
      else countFrom part 0 t

/-- How often `part` occurs without overlap; the empty text occurs between all characters. -/
def count (part t : Text) : Nat :=
  if part.isEmpty then t.length + 1 else countFrom part 0 t

/-- The pieces of a text between the occurrences of a nonempty separator, at most `limit` cuts
    from the left when a limit is given. -/
def splitFrom (sep : Text) : (limit : Option Nat) → (skip : Nat) → Text → List Text
  | _, _, [] => [[]]
  | limit, skip + 1, _ :: t => splitFrom sep limit skip t
  | limit, 0, c :: t =>
      if limit != some 0 && sep.isPrefixOf (c :: t) then
        [] :: splitFrom sep (limit.map (· - 1)) (sep.length - 1) t
      else match splitFrom sep limit 0 t with
        | [] => [[c]]
        | first :: rest => (c :: first) :: rest

/-- The text before the first `sep` and after it, when there is one. -/
def cut? (sep : Text) (t : Text) : Option (Text × Text) :=
  (find? sep t).map fun i => (t.take i, t.drop (i + sep.length))

end Text

end Stencil

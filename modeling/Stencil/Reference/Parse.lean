import Stencil.Literal.Read
import Stencil.Reference.Basic
import Stencil.Reference.Closer

/-! # Reading references

A head, then steps, with blanks allowed in front of each step, behind a point and
at both ends. Every character is accounted for: what cannot be part of a step is
a fault.
-/

namespace Stencil

/-- Why a text is no reference. -/
inductive ReferenceFault where
  | missingHead
  | missingAttribute
  | unbalanced (opening : Char)
  /-- Text in brackets that is no literal. -/
  | badLiteral (source : Text)
  | unexpected (c : Char)
  /-- A literal with an integer too large for a complex number. -/
  | overflow
  deriving Repr

def ReferenceFault.message : ReferenceFault → Text
  | missingHead => "expected an argument index or name"
  | missingAttribute => "expected attribute name after '.'"
  | unbalanced c => "unbalanced " ++ quoted [c]
  | badLiteral source => "expected a literal, found " ++ quoted source
  | unexpected c => "unexpected character " ++ quoted [c]
  | overflow => "int too large to convert to float"

namespace Reference

def readLiteral (source : Text) : Except ReferenceFault Literal :=
  match Literal.read (Text.trim source) with
  | .ok v => .ok v
  | .error .notLiteral => .error (.badLiteral (Text.trim source))
  | .error .overflow => .error .overflow

/-- A name at the start of a text, and the rest. -/
def readName? : Text → Option (Text × Text)
  | [] => none
  | c :: t => if isNameStart c then some (c :: t.takeWhile isWord, t.dropWhile isWord) else none

/-- The head at the start of a text, and the rest. -/
def readHead? (t : Text) : Option (Head × Text) :=
  let (ds, rest) := spanDigits t
  if ds.isEmpty then (readName? t).map fun r => (.name r.1, r.2)
  else some (.index (digitsValue 10 ds), rest)

def bracketStep (opening : Char) (inner : Text) : Except ReferenceFault Step :=
  if opening = '[' then (readLiteral inner).map .item
  else if Text.isBlank inner then .ok (.call (.tuple []))
  else (readLiteral ('(' :: inner ++ [',', ')'])).map .call

/-- The step at the start of a text that does not start with a blank, and the rest. -/
def readStep (c : Char) (t : Text) : Except ReferenceFault (Step × Text) :=
  if c = '.' then
    match readName? (Text.trimStart t) with
    | some (name, rest) => .ok (.attribute name, rest)
    | none => .error .missingAttribute
  else if (closer? c).isSome then
    match findCloser c t with
    | some i => (bracketStep c (t.take i)).map fun step => (step, t.drop (i + 1))
    | none => .error (.unbalanced c)
  else .error (.unexpected c)

theorem readName?_length {t name rest : Text} (h : readName? t = some (name, rest)) :
    rest.length ≤ t.length := by
  cases t with
  | nil => simp [readName?] at h
  | cons c t =>
    simp only [readName?] at h
    split at h
    · simp only [Option.some.injEq, Prod.mk.injEq] at h
      have := (List.dropWhile_sublist (l := t) isWord).length_le
      simp [← h.2]; omega
    · simp at h

theorem readStep_length {c : Char} {t rest : Text} {step : Step}
    (h : readStep c t = .ok (step, rest)) : rest.length ≤ t.length := by
  unfold readStep at h
  split at h
  · split at h
    · rename_i name rest' hn
      simp only [Except.ok.injEq, Prod.mk.injEq] at h
      obtain ⟨_, rfl⟩ := h
      have h1 := readName?_length hn
      have h2 := (List.dropWhile_sublist (l := t) Stencil.isBlank).length_le
      simp only [Text.trimStart] at h1
      omega
    · simp at h
  · split at h
    · split at h
      · rename_i i _
        cases hb : bracketStep c (t.take i) with
        | error e => simp [hb, Except.map] at h
        | ok s =>
          simp only [hb, Except.map, Except.ok.injEq, Prod.mk.injEq] at h
          rw [← h.2]; simp
      · simp at h
    · simp at h

def readSteps (t : Text) : Except ReferenceFault (List Step) :=
  match _h : Text.trimStart t with
  | [] => .ok []
  | c :: u =>
      match _hs : readStep c u with
      | .error e => .error e
      | .ok (step, rest) => (readSteps rest).map (step :: ·)
termination_by t.length
decreasing_by
  have h1 := readStep_length _hs
  have h2 := (List.dropWhile_sublist (l := t) Stencil.isBlank).length_le
  simp only [Text.trimStart] at _h
  rw [_h] at h2
  simp only [List.length_cons] at h2
  omega

/-- Reads a reference. Its text is kept without the outer blanks. -/
def read (t : Text) : Except ReferenceFault Reference :=
  let source := Text.trim t
  match readHead? source with
  | none => .error .missingHead
  | some (head, rest) => (readSteps rest).map fun steps => ⟨source, head, steps⟩

end Reference

end Stencil

import Stencil.Failure
import Stencil.Value.Act

/-! # The world of a run

What outlives a single rendering: the objects, the warnings given, the input not
read yet and what has been written. A run may fail, and whatever it did before
stays done.
-/

namespace Stencil

/-- The state that runs share. -/
structure World where
  store : Store
  /-- Warnings in the order they were given. -/
  warnings : List Text
  /-- Input not read yet. -/
  input : Text
  /-- The texts written, one for each write. -/
  output : List Text
  deriving Repr

/-- A world with objects and input in which nothing has happened yet. -/
def World.begin (store : Store) (input : Text) : World := ⟨store, [], input, []⟩

/-- An action in the world that gives a result or a failure. -/
abbrev Run (α : Type) := ExceptT Failure (StateM World) α

namespace Run

/-- An action on values, with its faults explained by a function. -/
def ofAct {α : Type} (explain : Fault → Failure) (act : Act α) : Run α := fun w =>
  let (r, s) := act.run w.store
  (r.mapError explain, { w with store := s })

def store : Run Store := do
  let w ← get
  pure w.store

def warn (text : Option Text) : Run Unit :=
  modify fun w => { w with warnings := w.warnings ++ text.toList }

def write (text : Text) : Run Unit := modify fun w => { w with output := w.output ++ [text] }

theorem run_bind {α β : Type} (act : Run α) (next : α → Run β) (w : World) :
    (act >>= next).run w =
      match act.run w with
      | (.error e, w') => (.error e, w')
      | (.ok v, w') => (next v).run w' := by
  change (ExceptT.bindCont next (act.run w).1).run (act.run w).2 = _
  cases act.run w with
  | mk r w' => cases r <;> rfl

end Run

end Stencil

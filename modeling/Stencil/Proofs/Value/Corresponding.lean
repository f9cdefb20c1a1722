import Mathlib.Data.List.Forall2
import Stencil.Proofs.Value.Outline

/-! # Values that show the same

Two values, each in a store of its own, have the same outline when they show the
same where they are and their entries are again such values. The containers
around each may be different ones, as long as both are met again at the same
places. A relation of this kind is all that is needed to compare two values, with
or without cycles.
-/

namespace Stencil.Store

/-- Two values show the same where they are, and `R` relates their entries: values on one line have
    one text; containers are both met inside of themselves or neither is, and have the same
    delimiters and labels. -/
inductive Corresponds (s s' : Store) (R : List Address → List Address → Value → Value → Prop)
    (seen seen' : List Address) (v v' : Value) : Prop where
  | line : s.container? v = none → s'.container? v' = none →
      s.safeDisplay v = s'.safeDisplay v' → Corresponds s s' R seen seen' v v'
  | container {a a' shape shape'} : s.container? v = some (a, shape) →
      s'.container? v' = some (a', shape') → shape.opening = shape'.opening →
      shape.closing = shape'.closing → shape.empty = shape'.empty → (a ∈ seen ↔ a' ∈ seen') →
      (a ∉ seen → List.Forall₂ (fun e e' => e.1 = e'.1 ∧ R (a :: seen) (a' :: seen') e.2 e'.2)
        shape.entries shape'.entries) → Corresponds s s' R seen seen' v v'

variable {s s' : Store}

theorem outlineFrom_line {seen v} (plain : s.container? v = none) :
    outlineFrom s seen v = .line (s.safeDisplay v) := by
  rw [outlineFrom]
  split
  · rfl
  · rename_i found
    cases plain.symm.trans found

theorem outlineFrom_container {seen v a shape} (found : s.container? v = some (a, shape))
    (outside : a ∉ seen) : outlineFrom s seen v =
      if shape.entries.isEmpty then .empty shape.empty
      else .block shape.opening shape.closing
        (shape.entries.map fun e => (e.1, outlineFrom s (a :: seen) e.2)) := by
  rw [outlineFrom]
  split
  · rename_i plain
    cases found.symm.trans plain
  · rename_i found'
    cases found.symm.trans found'
    rw [dif_neg outside]

theorem isEmpty_of_forall₂ {α β : Type} {P : α → β → Prop} {xs : List α} {ys : List β}
    (h : List.Forall₂ P xs ys) : xs.isEmpty = ys.isEmpty := by
  cases h with
  | nil => rfl
  | cons => rfl

theorem outlineFrom_corresponds {R : List Address → List Address → Value → Value → Prop}
    (step : ∀ seen seen' v v', R seen seen' v v' → Corresponds s s' R seen seen' v v')
    {seen seen' v v'} (h : R seen seen' v v') :
    outlineFrom s seen v = outlineFrom s' seen' v' := by
  fun_induction outlineFrom s seen v generalizing seen' v' with
  | case1 seen v plain =>
      cases step _ _ _ _ h with
      | line _ plain' same => rw [outlineFrom_line plain', same]
      | container found => cases plain.symm.trans found
  | case2 seen v a shape found inside =>
      cases step _ _ _ _ h with
      | line plain => cases found.symm.trans plain
      | container found₁ found' opening closing empty met entries =>
          cases found.symm.trans found₁
          rw [outlineFrom_dots found' (met.mp inside), opening, closing]
  | case3 seen v a shape found outside none =>
      cases step _ _ _ _ h with
      | line plain => cases found.symm.trans plain
      | container found₁ found' opening closing empty met entries =>
          cases found.symm.trans found₁
          rw [isEmpty_of_forall₂ (entries outside)] at none
          rw [outlineFrom_container found' (mt met.mpr outside), if_pos none, empty]
  | case4 seen v a shape found outside some ih =>
      cases step _ _ _ _ h with
      | line plain => cases found.symm.trans plain
      | @container a₁ a' shape₁ shape' found₁ found' opening closing empty met entries =>
          cases found.symm.trans found₁
          have below := entries outside
          rw [isEmpty_of_forall₂ below] at some
          rw [outlineFrom_container found' (mt met.mpr outside), if_neg some, opening, closing]
          congr 1
          rw [← List.forall₂_eq_eq_eq, List.forall₂_map_left_iff, List.forall₂_map_right_iff]
          exact below.imp fun e e' hee => Prod.ext hee.1 (ih e hee.2)

/-- Values that show the same are expanded to the same text, with every padding. -/
theorem expand_corresponds {R : List Address → List Address → Value → Value → Prop}
    (step : ∀ seen seen' v v', R seen seen' v v' → Corresponds s s' R seen seen' v v')
    {v v'} (h : R [] [] v v') (indent : Int) : s.expand indent v = s'.expand indent v' := by
  rw [expand, expand, expandFrom_outline, expandFrom_outline, outlineFrom_corresponds step h]

end Stencil.Store

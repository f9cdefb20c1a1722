import Stencil.Proofs.Directive.Rejected
import Stencil.Proofs.Format.Places

/-! # Decimal places

A float or a decimal under a spec that ends in its precision shows so many decimal
places, as if the letter for fixed places stood behind it. This holds whatever
stands in front of the precision, except that a line feed as the fill hides the
precision, and the number of places becomes a number of digits.
-/

namespace Stencil

open Format

/-- The failure that a fault becomes when a value is formatted under a spec. -/
def Store.refusal (s : Store) (v : Value) (spec : Text) (f : Fault) : Failure :=
  if f.kind.isBadValue || f.kind == .badType then
    .spec (.refused (v.typeName s) f.text) spec none
  else .fault f

namespace Directive

variable {spec letter : Text} {v : Value} {p : SpecParts}

theorem formatNumeric_eq (s : Store) (v : Value) (spec : Text) :
    formatNumeric s v spec =
      (s.format v (effectiveSpec v spec)).mapError (s.refusal v (effectiveSpec v spec)) := by
  simp only [formatNumeric]
  cases s.format v (effectiveSpec v spec) with
  | ok t => rfl
  | error f =>
      simp only [Except.mapError, Store.refusal]
      split <;> rfl

/-- A directive does to a value what formatting it under a spec does. -/
def FormatsAs (d : Directive) (v : Value) (spec : Text) : Prop :=
  ∀ w, (d.render v).run w = ((w.store.format v spec).mapError (w.store.refusal v spec), w)

theorem numeric_formatsAs (v : Value) (spec : Text) :
    (numeric spec).FormatsAs v (effectiveSpec v spec) := by
  intro w
  rw [← formatNumeric_eq]
  rfl

theorem numeric_of_ofSpec? {written : Option Text} (h : ofSpec? written = some (numeric spec)) :
    written = some spec ∧ isStandardSpec spec := by
  unfold ofSpec? at h
  split at h
  · cases h
  · cases h
  · cases h
  · cases h
  · cases h
  · split at h
    · rename_i standard
      cases h
      exact ⟨rfl, standard⟩
    · cases h

theorem effectiveSpec_places (number : hasFixedPlaces v) (one : Upto isLetter letter)
    (places : p.precision ≠ []) (bare : letter = []) (noBreak : '\n' ∉ p.front) :
    effectiveSpec v (p.text ++ letter) = p.text ++ letter ++ ['f'] := by
  unfold effectiveSpec
  rw [number, isPrecisionOnly_parts one |>.mpr ⟨places, bare, noBreak⟩]
  rfl

theorem effectiveSpec_same (one : Upto isLetter letter)
    (other : p.precision = [] ∨ letter ≠ [] ∨ '\n' ∈ p.front) :
    effectiveSpec v (p.text ++ letter) = p.text ++ letter := by
  have unseen : isPrecisionOnly (p.text ++ letter) = false := by
    refine eq_false_of_ne_true fun seen => ?_
    obtain ⟨places, bare, noBreak⟩ := (isPrecisionOnly_parts one).mp seen
    obtain h | h | h := other
    · exact places h
    · exact h bare
    · exact noBreak h
  simp [effectiveSpec, unseen]

end Directive

/-- Floats and decimals take a spec that ends in its precision as asking for fixed places, and any
    other spec as it is. A spec with a line feed for its fill always counts among the others. -/
theorem precision_fixes_places {spec : Text} {v : Value}
    (accepted : Directive.ofSpec? (some spec) = some (.numeric spec))
    (number : (∃ x, v = .float x) ∨ ∃ d, v = .decimal d) :
    (∃ (p : SpecParts) (letter : Text), spec = p.text ++ letter ∧ Upto isLetter letter) ∧
      ∀ (p : SpecParts) (letter : Text), spec = p.text ++ letter → Upto isLetter letter →
        (p.precision ≠ [] → letter = [] → '\n' ∉ p.front →
          (Directive.numeric spec).FormatsAs v (spec ++ ['f'])) ∧
        (p.precision = [] ∨ letter ≠ [] ∨ '\n' ∈ p.front →
          (Directive.numeric spec).FormatsAs v spec) := by
  have fixed : Directive.hasFixedPlaces v := by
    obtain ⟨x, rfl⟩ | ⟨d, rfl⟩ := number <;> rfl
  refine ⟨isStandardSpec_iff.mp (Directive.numeric_of_ofSpec? accepted |>.2), ?_⟩
  rintro p letter rfl one
  have formats := Directive.numeric_formatsAs v (p.text ++ letter)
  constructor
  · intro places bare noBreak
    rwa [Directive.effectiveSpec_places fixed one places bare noBreak] at formats
  · intro other
    rwa [Directive.effectiveSpec_same one other] at formats

/-- A point as the fill does not hide the precision. -/
theorem precision_fixes_places_point :
    let spec : Text := ".^8.1"
    let v : Value := .decimal (.finite false 15 (-1))
    Directive.ofSpec? (some spec) = some (.numeric spec) ∧
      (Directive.numeric spec).FormatsAs v (spec ++ ['f']) := by
  have accepted : Directive.ofSpec? (some ".^8.1") = some (.numeric ".^8.1") := by decide
  let p : SpecParts :=
    ⟨".^", [], [], [], "8", [], ".1", .filled '.' rfl, .none, .none, .none,
      List.all_eq_true.mp rfl, .none, .places (by simp) (List.all_eq_true.mp rfl)⟩
  obtain ⟨-, read⟩ := precision_fixes_places accepted (.inr ⟨.finite false 15 (-1), rfl⟩)
  exact ⟨accepted, (read p [] rfl .none).1 (by decide) rfl (by decide)⟩

/-- With a line feed as the fill a precision alone keeps two digits, not two places. -/
theorem line_feed_hides_precision :
    let spec : Text := "\n>.2"
    let v : Value := .float (Binary64.ofRatio false 3 2)
    Directive.ofSpec? (some spec) = some (.numeric spec) ∧
      (∃ p : SpecParts, spec = p.text ∧ p.precision = ".2") ∧
      ((Directive.numeric spec).render v).run (.begin [] []) = (.ok "1.5", .begin [] []) ∧
      Store.format [] v (spec ++ ['f']) = .ok "1.50" := by
  let p : SpecParts :=
    ⟨"\n>", [], [], [], [], [], ".2", .filled '\n' rfl, .none, .none, .none, by simp, .none,
      .places (by simp) (List.all_eq_true.mp rfl)⟩
  exact ⟨by decide, ⟨p, rfl, rfl⟩, rfl, rfl⟩

end Stencil

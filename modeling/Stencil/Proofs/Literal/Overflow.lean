import Stencil.Fault
import Stencil.Literal.Read
import Stencil.Proofs.Literal.Numbers
import Stencil.Proofs.Literal.Stems
import Stencil.Proofs.Number.FloatRange

/-! # Integers out of range in literals

Reading a text as a literal overflows only where an integer is added to an imaginary
number and has no float for it. Both numbers stem from tokens, up to the sign of the
integer, and so both are written in the text, whatever stands around them and whether
or not the whole would be a literal.
-/

namespace Stencil.Literal

/-- In a text are written an integer out of the range of floats and an imaginary number. -/
structure Overflows (t : Text) : Prop where
  integer : ∃ i : Int, HasNumber (unifyLines t) (.int i) ∧ Binary64.limit ≤ i.natAbs
  imaginary : ∃ re im, HasNumber (unifyLines t) (.complex re im)

variable {ts : List Token} {e : Expression} {f : ReadFault} {i : Int}

/-! ## Numbers of an expression -/

theorem Stems.number {s : Scalar} (h : Stems ts e) (number : e.number? = some s) :
    FromToken ts s := by
  cases e with
  | constant u =>
      cases h with
      | constant known => cases u <;> cases number <;> exact known
      | inert none => cases none
  | _ => cases number

theorem negated_int {s : Scalar} (h : negated s = .int i) : s = .int (-i) := by
  cases s <;> cases h
  rw [Int.neg_neg]

/-- A sign leaves the magnitude of an integer. -/
theorem Stems.signed_int (h : Stems ts e) (number : e.signedNumber? = some (.int i)) :
    ∃ j : Int, .number (.int j) ∈ ts ∧ j.natAbs = i.natAbs := by
  cases e with
  | signed negative e =>
      cases h with
      | inert none => cases none
      | signed stems =>
          obtain ⟨s, inner, sign⟩ := Option.map_eq_some_iff.mp number
          split at sign
          · rw [negated_int sign] at inner
            exact ⟨-i, stems.number inner, Int.natAbs_neg i⟩
          · rw [sign] at inner
            exact ⟨i, stems.number inner, rfl⟩
  | _ => exact ⟨i, h.number number, rfl⟩

theorem addComplex_overflow {left right : Scalar} {negative : Bool}
    (h : addComplex left negative right = .error .overflow) :
    ∃ i re im, left = .int i ∧ right = .complex re im ∧ Binary64.ofInt? i = none := by
  unfold addComplex at h
  split at h
  · rename_i i re im
    split at h
    · cases h
    · rename_i far
      exact ⟨i, re, im, rfl, rfl, far⟩
  · cases h
  · cases h

/-! ## Parts of an expression -/

namespace Expression

theorem evaluateAll_error {es : List Expression} (h : evaluateAll es = .error f) :
    ∃ e ∈ es, e.evaluate = .error f := by
  induction es with
  | nil => cases h
  | cons e es ih =>
      rw [evaluateAll] at h
      cases first : e.evaluate with
      | error g =>
          rw [first] at h
          cases h
          exact ⟨e, List.mem_cons_self, first⟩
      | ok x =>
          cases others : evaluateAll es with
          | error g =>
              rw [first, others] at h
              cases h
              obtain ⟨d, known, bad⟩ := ih others
              exact ⟨d, List.mem_cons_of_mem e known, bad⟩
          | ok xs =>
              rw [first, others] at h
              cases h

theorem evaluateItems_overflow {items : List Literal} {es : List Expression}
    (h : evaluateItems items es = .error .overflow) :
    ∃ e ∈ es, e.evaluate = .error .overflow := by
  induction es generalizing items with
  | nil => cases h
  | cons e es ih =>
      rw [evaluateItems] at h
      cases first : e.evaluate with
      | error g =>
          rw [first] at h
          cases h
          exact ⟨e, List.mem_cons_self, first⟩
      | ok x =>
          rw [first] at h
          simp only [bind, Except.bind] at h
          split at h
          · obtain ⟨d, known, bad⟩ := ih h
            exact ⟨d, List.mem_cons_of_mem e known, bad⟩
          · cases h

theorem evaluateEntries_overflow {entries : List (Literal × Literal)}
    {es : List (Expression × Expression)} (h : evaluateEntries entries es = .error .overflow) :
    ∃ d ∈ es, d.1.evaluate = .error .overflow ∨ d.2.evaluate = .error .overflow := by
  induction es generalizing entries with
  | nil => cases h
  | cons d es ih =>
      obtain ⟨k, v⟩ := d
      rw [evaluateEntries] at h
      cases first : k.evaluate with
      | error g =>
          rw [first] at h
          cases h
          exact ⟨(k, v), List.mem_cons_self, .inl first⟩
      | ok x =>
          cases second : v.evaluate with
          | error g =>
              rw [first, second] at h
              cases h
              exact ⟨(k, v), List.mem_cons_self, .inr second⟩
          | ok y =>
              rw [first, second] at h
              simp only [bind, Except.bind] at h
              split at h
              · obtain ⟨d, known, bad⟩ := ih h
                exact ⟨d, List.mem_cons_of_mem _ known, bad⟩
              · cases h

end Expression

/-- An expression overflows only where an integer out of the range of floats and an imaginary number
    are among its tokens. -/
theorem Stems.evaluate_overflow (stems : Stems ts e) (h : e.evaluate = .error .overflow) :
    (∃ i : Int, .number (.int i) ∈ ts ∧ Binary64.limit ≤ i.natAbs) ∧
      ∃ re im, .number (.complex re im) ∈ ts := by
  induction stems with
  | constant => cases h
  | signed =>
      rw [Expression.evaluate] at h
      split at h <;> cases h
  | @sum e negative f left right _ _ =>
      rw [Expression.evaluate] at h
      split at h
      · rename_i s u number imaginary
        obtain ⟨i, re, im, rfl, rfl, far⟩ := addComplex_overflow h
        obtain ⟨j, known, same⟩ := left.signed_int number
        have large : Binary64.limit ≤ i.natAbs := (Binary64.ofInt?_eq_none_iff i).mp far
        exact ⟨⟨j, known, same ▸ large⟩, re, im, right.number imaginary⟩
      · cases h
  | tuple _ ih =>
      obtain ⟨e, known, bad⟩ := Expression.evaluateAll_error (map_error h)
      exact ih e known bad
  | list _ ih =>
      obtain ⟨e, known, bad⟩ := Expression.evaluateAll_error (map_error h)
      exact ih e known bad
  | set _ ih =>
      obtain ⟨e, known, bad⟩ := Expression.evaluateItems_overflow (map_error h)
      exact ih e known bad
  | dict _ _ keys values =>
      obtain ⟨⟨k, v⟩, known, bad | bad⟩ := Expression.evaluateEntries_overflow (map_error h)
      · exact keys k v known bad
      · exact values k v known bad
  | @inert e none =>
      cases e with
      | constant | signed | sum | tuple | list | set | dict => cases none
      | name | access | emptySet | starred | assigned | other =>
          simp only [Expression.evaluate] at h
          cases h

/-- Reading a literal overflows only where an integer out of the range of floats and an imaginary
    number are written. -/
theorem read_overflow {t : Text} (h : read t = .error .overflow) : Overflows t := by
  unfold read at h
  split at h
  · rename_i e vs parsed
    obtain ⟨ts, cut, whole⟩ := Option.bind_eq_some_iff.mp parsed
    obtain ⟨⟨i, integer, large⟩, re, im, imaginary⟩ :=
      (whole_stems whole).evaluate_overflow h
    exact ⟨⟨i, tokens_hasNumber cut integer, large⟩, re, im, tokens_hasNumber cut imaginary⟩
  · cases h

end Stencil.Literal

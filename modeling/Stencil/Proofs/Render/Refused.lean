import Stencil.Proofs.Directive.Places
import Stencil.Proofs.Render.Printing

/-! # Failures over specs

A failure over a spec comes from the check before rendering, or from the first
value that refuses its spec. Either way it names the spec as the template has it,
with one exception: where a float or a decimal refuses the fixed places that it
took a precision alone for, the letter for these is named as well.
-/

namespace Stencil

open Format

/-! ## Resolving is never a failure over a spec -/

/-- An action that does not fail over a spec. -/
def Run.Specless {α : Type} (act : Run α) : Prop :=
  ∀ w fault spec position, (act.run w).1 ≠ .error (.spec fault spec position)

namespace Run.Specless

variable {α β : Type}

theorem ok (v : α) : Run.Specless (ExceptT.mk (pure (.ok v)) : Run α) := by
  intro w fault spec position h
  cases h

theorem error {e : Failure} (h : ∀ fault spec position, e ≠ .spec fault spec position) :
    Run.Specless (ExceptT.mk (pure (.error e)) : Run α) := by
  intro w fault spec position h'
  cases h'
  exact h fault spec position rfl

theorem ofAct {explain : Fault → Failure} (act : Act α)
    (h : ∀ f fault spec position, explain f ≠ .spec fault spec position) :
    (Run.ofAct explain act).Specless := by
  intro w fault spec position
  change (act.run w.store).1.mapError explain ≠ _
  cases (act.run w.store).1 with
  | ok v => exact fun h' => nomatch h'
  | error f =>
      intro h'
      exact h f fault spec position (Except.error.inj h')

theorem bind {act : Run α} {next : α → Run β} (h : act.Specless) (k : ∀ v, (next v).Specless) :
    (act >>= next).Specless := by
  intro w fault spec position
  have first := h w fault spec position
  rw [run_bind]
  cases ran : act.run w with
  | mk r w' =>
      rw [ran] at first
      cases r with
      | error e =>
          intro h'
          cases h'
          exact first rfl
      | ok v => exact k v w' fault spec position

theorem store_bind {next : Store → Run β} (k : ∀ s, (next s).Specless) :
    (Run.store >>= next).Specless :=
  fun w => k w.store w

end Run.Specless

theorem Step.take_specless (text : Text) (step : Step) (v : Value) :
    (step.take text v).Specless := by
  refine .store_bind fun s => ?_
  cases step with
  | «attribute» name =>
      refine .ofAct _ fun f fault spec position => ?_
      split <;> exact fun h => nomatch h
  | item key =>
      refine .ofAct _ fun f fault spec position => ?_
      split <;> exact fun h => nomatch h
  | call arguments =>
      simp only
      split
      · exact .ofAct _ fun f fault spec position h => nomatch h
      · exact .error fun fault spec position h => nomatch h

theorem Reference.walk_specless (text : Text) (steps : List Step) (v : Value) :
    (Reference.walk text steps v).Specless := by
  induction steps generalizing v with
  | nil => exact .ok v
  | cons step steps ih => exact (step.take_specless text v).bind ih

theorem Reference.resolve_specless (r : Reference) (a : Arguments) : (r.resolve a).Specless := by
  refine .bind ?_ fun v => walk_specless r.text r.steps v
  unfold Reference.start
  split <;> split
  · exact .ok _
  · exact .error fun fault spec position h => nomatch h
  · exact .ok _
  · exact .error fun fault spec position h => nomatch h

/-! ## The placeholder that fails -/

theorem Rendered.stopped {a tail spans w r w'} (h : Rendered a tail spans w r w') {e}
    (failed : r = .error e) :
    ∃ before l p after shown w₁, spans = before ++ (l, p) :: after ∧
      Rendered a [] before w (.ok shown) w₁ ∧
      ((p.reference.resolve a).run w₁ = (.error e, w') ∨
        ∃ v w₂ d, (p.reference.resolve a).run w₁ = (.ok v, w₂) ∧
          Directive.ofSpec? p.spec = some d ∧ (d.render v).run w₂ = (.error e, w')) := by
  -- a failure behind a placeholder that is shown is one of the run from there
  induction h with
  | done => cases failed
  | @unresolved l p spans w e' w' missing =>
      cases failed
      exact ⟨[], l, p, spans, [], w, rfl, .done, .inl missing⟩
  | @refused l p spans w v w' d e' w'' resolved asked shown =>
      cases failed
      exact ⟨[], l, p, spans, [], w, rfl, .done, .inr ⟨v, w', d, resolved, asked, shown⟩⟩
  | @shown l p spans w v w' d text w'' r w''' resolved asked shown _ ih =>
      cases r with
      | ok rest => cases failed
      | error e' =>
          cases failed
          obtain ⟨before, m, q, after, x, w₁, rfl, earlier, here⟩ := ih rfl
          exact ⟨(l, p) :: before, m, q, after, _, w₁, rfl,
            .shown resolved asked shown earlier, here⟩

/-- The specs of some spans are all well formed, or there is a first one that is not. -/
theorem Template.malformed_cases (spans : List (Text × Placeholder)) :
    (∀ s ∈ spans, (Directive.ofSpec? s.2.spec).isSome) ∨
      ∃ before l p after spec, spans = before ++ (l, p) :: after ∧ p.spec = some spec ∧
        (∀ s ∈ before, (Directive.ofSpec? s.2.spec).isSome) ∧
        Directive.ofSpec? (some spec) = none := by
  cases first : spans.find? fun s => (Directive.ofSpec? s.2.spec).isNone with
  | none =>
      left
      simpa [Option.isSome_iff_ne_none] using List.find?_eq_none.mp first
  | some s =>
      right
      obtain ⟨l, p⟩ := s
      obtain ⟨malformed, before, after, split, others⟩ := List.find?_eq_some_iff_append.mp first
      rw [Option.isNone_iff_eq_none] at malformed
      have wellFormed : ∀ s ∈ before, (Directive.ofSpec? s.2.spec).isSome := by
        simpa [Option.isSome_iff_ne_none] using others
      cases written : p.spec with
      | none =>
          rw [written] at malformed
          cases malformed
      | some spec =>
          exact ⟨before, l, p, after, spec, split, written, wellFormed, written ▸ malformed⟩

theorem render_failed {text a w e w'} (failed : (render text a).run w = (.error e, w')) :
    (∃ e', Template.read text = .error e' ∧ e = .template e') ∨
      ∃ t, Template.read text = .ok t ∧
        ((∃ before l p after spec, t.spans = before ++ (l, p) :: after ∧ p.spec = some spec ∧
            (∀ s ∈ before, (Directive.ofSpec? s.2.spec).isSome) ∧
            Directive.ofSpec? (some spec) = none ∧
            e = .spec .malformed spec (some p.position) ∧ w' = w) ∨
          Rendered a t.tail t.spans w (.error e) w') := by
  cases read : Template.read text with
  | error e' =>
      rw [render_unread read] at failed
      cases failed
      exact .inl ⟨e', rfl, rfl⟩
  | ok t =>
      refine .inr ⟨t, rfl, ?_⟩
      obtain each | ⟨before, l, p, after, spec, split, written, wellFormed, malformed⟩ :=
        Template.malformed_cases t.spans
      · obtain ⟨ds, made⟩ := Template.exists_demands each
        rw [render_read read made] at failed
        exact .inr (rendered_spans made a t.tail w failed)
      · have whole : t.placeholders = before.map (·.2) ++ p :: after.map (·.2) := by
          simp [Template.placeholders, split]
        rw [render_malformed read whole (List.forall_mem_map.mpr wellFormed) written
          (written ▸ malformed)] at failed
        cases failed
        exact .inl ⟨before, l, p, after, spec, split, written, wellFormed, malformed, rfl, rfl⟩

/-! ## The spec that a failure names -/

namespace Directive

/-- Whether a value takes a spec for a number of places: a float or a decimal, under a text that
    ends in a point and digits and has no line feed in front of them. -/
def TakesPlaces (v : Value) (spec : Text) : Prop :=
  ((∃ x, v = .float x) ∨ ∃ d, v = .decimal d) ∧
    ∃ before ds, spec = before ++ '.' :: ds ∧ ds ≠ [] ∧ (∀ c ∈ ds, isDecimal c) ∧ '\n' ∉ before

/-- A value refuses a spec, and the failure names it, with the letter for fixed places behind it
    where the value takes it for a number of places. -/
structure Refused (s : Store) (v : Value) (spec : Text) (fault : BadSpec) (fragment : Text)
    (position : Option Nat) : Prop where
  raised : ∃ f, s.format v fragment = .error f ∧ (f.kind.isBadValue ∨ f.kind = .badType) ∧
    fault = .refused (v.typeName s) f.text
  named : fragment = spec ∧ ¬ TakesPlaces v spec ∨ fragment = spec ++ ['f'] ∧ TakesPlaces v spec
  position : position = none

variable {v : Value} {spec fragment : Text} {fault : BadSpec} {position : Option Nat}

theorem hasFixedPlaces_iff : hasFixedPlaces v ↔ (∃ x, v = .float x) ∨ ∃ d, v = .decimal d := by
  constructor
  · intro h
    unfold hasFixedPlaces at h
    split at h
    · exact .inl ⟨_, rfl⟩
    · exact .inr ⟨_, rfl⟩
    · cases h
  · rintro (⟨x, rfl⟩ | ⟨d, rfl⟩) <;> rfl

theorem effectiveSpec_iff :
    effectiveSpec v spec = fragment ↔
      fragment = spec ∧ ¬ TakesPlaces v spec ∨
        fragment = spec ++ ['f'] ∧ TakesPlaces v spec := by
  have takes : TakesPlaces v spec ↔ (hasFixedPlaces v && isPrecisionOnly spec) = true := by
    rw [Bool.and_eq_true, hasFixedPlaces_iff, isPrecisionOnly_iff]
    rfl
  unfold effectiveSpec
  by_cases places : TakesPlaces v spec
  · rw [if_pos (takes.mp places)]
    simp [places, eq_comm]
  · rw [if_neg (mt takes.mpr places)]
    simp [places, eq_comm]

theorem formatNumeric_spec_iff (s : Store) :
    formatNumeric s v spec = .error (.spec fault fragment position) ↔
      Refused s v spec fault fragment position := by
  rw [formatNumeric_eq]
  constructor
  · intro h
    cases shown : s.format v (effectiveSpec v spec) with
    | ok t =>
        rw [shown] at h
        cases h
    | error f =>
        simp only [shown, Except.mapError, Store.refusal] at h
        split at h
        · rename_i kind
          cases h
          exact ⟨⟨f, shown, by simpa using kind, rfl⟩, effectiveSpec_iff.mp rfl, rfl⟩
        · cases h
  · rintro ⟨⟨f, shown, kind, rfl⟩, named, rfl⟩
    rw [effectiveSpec_iff.mpr named, shown]
    simp [Except.mapError, Store.refusal, kind]

theorem render_spec {d : Directive} {w w' : World}
    (failed : (d.render v).run w = (.error (.spec fault fragment position), w')) :
    ∃ spec, d = .numeric spec ∧ w' = w ∧ Refused w.store v spec fault fragment position := by
  cases d with
  | numeric spec =>
      obtain ⟨refused, same⟩ := Prod.mk.inj failed
      exact ⟨spec, rfl, same.symm, (formatNumeric_spec_iff w.store).mp refused⟩
  | _ => cases failed

end Directive

/-- How a template fails over a spec. -/
inductive SpecFailure (text : Text) (a : Arguments) (w : World) :
    BadSpec → Text → Option Nat → World → Prop where
  /-- The first spec that is none is reported before anything is done. -/
  | malformed {t before l p after spec} : Template.read text = .ok t →
      t.spans = before ++ (l, p) :: after → p.spec = some spec →
      (∀ s ∈ before, (Directive.ofSpec? s.2.spec).isSome) →
      Directive.ofSpec? (some spec) = none →
      SpecFailure text a w .malformed spec (some p.position) w
  /-- The placeholders before are rendered, and the value of this one refuses its spec. -/
  | refused {t before l p after spec shown w' v w'' fault fragment position} :
      Template.read text = .ok t → t.spans = before ++ (l, p) :: after → p.spec = some spec →
      Directive.ofSpec? (some spec) = some (.numeric spec) →
      Rendered a [] before w (.ok shown) w' → (p.reference.resolve a).run w' = (.ok v, w'') →
      Directive.Refused w''.store v spec fault fragment position →
      SpecFailure text a w fault fragment position w''

/-- A failure over a spec names the spec of the placeholder that failed. The one exception is a
    spec that a float or a decimal takes for a number of places and then refuses: it is named with
    the letter for fixed places behind it. -/
theorem spec_failure_names_spec (text : Text) (a : Arguments) (w : World) (s : Store) (v : Value)
    (spec : Text) :
    (∀ {fault fragment position w'},
      (render text a).run w = (.error (.spec fault fragment position), w') →
      SpecFailure text a w fault fragment position w') ∧
    ∀ {fault fragment position},
      Directive.formatNumeric s v spec = .error (.spec fault fragment position) ↔
      Directive.Refused s v spec fault fragment position := by
  refine ⟨?_, Directive.formatNumeric_spec_iff s⟩
  intro fault fragment position w' failed
  obtain ⟨e, -, same⟩ | ⟨t, read, early | late⟩ := render_failed failed
  · cases same
  · obtain ⟨before, l, p, after, spec, split, written, wellFormed, malformed, same, rfl⟩ := early
    cases same
    exact .malformed read split written wellFormed malformed
  · obtain ⟨before, l, p, after, shown, w₁, split, earlier, here⟩ := late.stopped rfl
    obtain missing | ⟨v, w₂, d, resolved, asked, refused⟩ := here
    · exact absurd (congrArg Prod.fst missing) (p.reference.resolve_specless a w₁ _ _ _)
    · obtain ⟨spec, rfl, rfl, refusal⟩ := Directive.render_spec refused
      have written := (Directive.numeric_of_ofSpec? asked).1
      exact .refused read split written (written ▸ asked) earlier resolved refusal

/-- A separator that the letter does not allow. -/
theorem spec_failure_names_spec_separator :
    let a : Arguments := ⟨[.int 255], []⟩
    let w := World.begin [] []
    let fault := BadSpec.refused "int" "Cannot specify ',' with 'x'."
    (render "\x7b0:,x\x7d" a).run w = (.error (.spec fault ",x" none), w) ∧
      SpecFailure "\x7b0:,x\x7d" a w fault ",x" none w ∧
      Directive.formatNumeric [] (.int 255) ",x" = .error (.spec fault ",x" none) ∧
      Directive.Refused [] (.int 255) ",x" fault ",x" none := by
  intro a w fault
  have read : Template.read "\x7b0:,x\x7d" =
      .ok ⟨[([], ⟨"\x7b0:,x\x7d", "0", some ",x", 0, ⟨"0", .index 0, []⟩⟩)], []⟩ := by cbv
  have direct : Directive.formatNumeric [] (.int 255) ",x" = .error (.spec fault ",x" none) := rfl
  have failed : (render "\x7b0:,x\x7d" a).run w = (.error (.spec fault ",x" none), w) := by
    unfold render
    rw [read]
    rfl
  obtain ⟨names, refused⟩ := spec_failure_names_spec "\x7b0:,x\x7d" a w [] (.int 255) ",x"
  exact ⟨failed, names failed, direct, refused.mp direct⟩

/-- A decimal does not take an underscore, and the spec is not named as it was written. -/
theorem refused_places_not_named :
    let a : Arguments := ⟨[.decimal (.finite false 15 (-1))], []⟩
    let w := World.begin [] []
    let fault := BadSpec.refused "Decimal" "invalid format string"
    (∃ t l p, Template.read "\x7b0:_.2\x7d" = .ok t ∧ t.spans = [(l, p)] ∧ p.spec = some "_.2") ∧
      (render "\x7b0:_.2\x7d" a).run w = (.error (.spec fault "_.2f" none), w) := by
  intro a w fault
  have read : Template.read "\x7b0:_.2\x7d" =
      .ok ⟨[([], ⟨"\x7b0:_.2\x7d", "0", some "_.2", 0, ⟨"0", .index 0, []⟩⟩)], []⟩ := by cbv
  refine ⟨⟨_, _, _, read, rfl, rfl⟩, ?_⟩
  unfold render
  rw [read]
  rfl

end Stencil

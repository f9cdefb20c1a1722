import Stencil.Directive
import Stencil.Proofs.Format.Plain
import Stencil.Proofs.Format.Reader

/-! # Specs that are rejected before there is a value

What the check of specs rejects, no truth value, integer or text would take, and
no float or complex number either, with one exception that costs nothing: these
two take a null character behind the parts of a spec as saying that there is no
letter, so the spec without it does the same, and that one is not rejected.
-/

namespace Stencil

open Format

/-! ## Characters that are no letters -/

namespace Format

/-- Whether a result is a refusal for a fault of the spec. -/
def Refusal (r : Except FormatFault Text) : Prop :=
  ∃ e, r = .error (.refused e) ∧ FormatSpec.OfSpec e

variable {spec : FormatSpec} {letter : Option Char} {c : Char}

theorem floatStyle?_unknown {bare} (named : spec.letter = some c) (other : isLetter c = false) :
    floatStyle? spec bare = none := by
  unfold floatStyle?
  rw [named]
  split <;> simp_all [isLetter]

theorem integerBase?_unknown (h : ∀ c, letter = some c → isLetter c = false) :
    integerBase? letter = none := by
  unfold integerBase?
  split <;> simp_all [isLetter]

theorem floatUnder_unknown (named : spec.letter = some c) (other : isLetter c = false)
    (typeName : Text) (x : Binary64) : Refusal (floatUnder typeName spec x) := by
  unfold floatUnder
  rw [floatStyle?_unknown named other]
  exact ⟨_, rfl, trivial⟩

theorem complexUnder_unknown (named : spec.letter = some c) (other : isLetter c = false)
    (re im : Binary64) : Refusal (complexUnder spec re im) := by
  unfold complexUnder
  rw [floatStyle?_unknown named other]
  exact ⟨_, rfl, trivial⟩

theorem integerUnder_unknown (h : ∀ c, spec.letter = some c → isLetter c = false)
    (typeName : Text) (i : Int) : Refusal (integerUnder typeName spec i) := by
  have unknown : spec.letter.any isLetter = false := by
    cases named : spec.letter with
    | none => rfl
    | some c => exact h c named
  have other {l : Option Char} (known : l.any isLetter) : spec.letter ≠ l := by
    rintro rfl
    rw [unknown] at known
    cases known
  have floats : ∀ l ∈ [some 'e', some 'E', some 'f', some 'F', some 'g', some 'G', some '%'],
      l.any isLetter := by decide
  unfold integerUnder
  rw [integerBase?_unknown h]
  split
  · rename_i named
    exact absurd named (other rfl)
  · rename_i absent
    cases absent
  · split
    · rename_i float
      exact absurd rfl (other (floats _ float))
    · exact ⟨_, rfl, trivial⟩

theorem textUnder_unknown (h : ∀ c, spec.letter = some c → isLetter c = false) (t : Text) :
    Refusal (textUnder spec t) := by
  have other : spec.letter ≠ some 's' := fun named => by cases h _ named
  unfold textUnder
  rw [if_pos other]
  exact ⟨_, rfl, trivial⟩

/-! ## Specs that the check rejects -/

section

variable {t typeName : Text} {align : Align} {under : FormatSpec → Except FormatFault Text}
  (rejected : isStandardSpec t = false)
include rejected

theorem underSpec_refusal (unknown : ∀ spec : FormatSpec,
      (∀ c, spec.letter = some c → isLetter c = false) → Refusal (under spec)) :
    Refusal (underSpec typeName letter align under t) := by
  unfold underSpec
  split
  · rename_i unread
    exact ⟨_, rfl, FormatSpec.read_error unread⟩
  · rename_i spec read
    refine unknown spec fun c named => ?_
    obtain ⟨d, named', other⟩ | ⟨plain, -⟩ := FormatSpec.read_rejected rejected read
    · rw [named] at named'
      cases named'
      exact other
    · rw [named] at plain
      cases plain

/-- Where a value has a plain form, a null character in place of the letter asks for it. -/
theorem underSpec_refusal_or_null {shown : Text}
    (unknown : ∀ (spec : FormatSpec) (c : Char), spec.letter = some c → isLetter c = false →
      Refusal (under spec))
    (plain : under plainSpec = .ok shown) :
    Refusal (underSpec typeName none .right under t) ∨
      ∃ p : SpecParts, t = p.text ++ ['\x00'] ∧
        underSpec typeName none .right under t =
          if p.text.isEmpty then .ok shown else underSpec typeName none .right under p.text := by
  cases read : FormatSpec.read typeName none .right t with
  | error e => exact .inl ⟨e, by simp only [underSpec, read], FormatSpec.read_error read⟩
  | ok spec =>
      have whole : underSpec typeName none .right under t = under spec := by
        simp only [underSpec, read]
      obtain ⟨c, named, other⟩ | ⟨-, p, rfl, front⟩ := FormatSpec.read_rejected rejected read
      · exact .inl (whole ▸ unknown spec c named other)
      · refine .inr ⟨p, rfl, ?_⟩
        rw [whole]
        split
        · rename_i empty
          rw [List.isEmpty_iff.mp empty, read_plain] at front
          cases front
          exact plain
        · simp only [underSpec, front]

theorem text_isEmpty : t.isEmpty = false := by
  cases t with
  | nil => cases rejected
  | cons c t => rfl

theorem formatInteger_rejected (i : Int) : Refusal (formatInteger typeName i t) :=
  underSpec_refusal rejected fun _ unknown => integerUnder_unknown unknown typeName i

theorem formatText_rejected (text : Text) : Refusal (formatText text t) := by
  rw [formatText, text_isEmpty rejected]
  exact underSpec_refusal rejected fun _ unknown => textUnder_unknown unknown text

theorem formatFloat_rejected (x : Binary64) :
    Refusal (formatFloat x t) ∨
      ∃ p : SpecParts, t = p.text ++ ['\x00'] ∧ formatFloat x t = formatFloat x p.text := by
  rw [formatFloat, text_isEmpty rejected]
  exact underSpec_refusal_or_null rejected
    (fun _ _ named other => floatUnder_unknown named other "float" x) (floatUnder_plain "float" x)

theorem formatComplex_rejected (re im : Binary64) :
    Refusal (formatComplex re im t) ∨
      ∃ p : SpecParts, t = p.text ++ ['\x00'] ∧
        formatComplex re im t = formatComplex re im p.text := by
  rw [formatComplex, text_isEmpty rejected]
  exact underSpec_refusal_or_null rejected
    (fun _ _ named other => complexUnder_unknown named other re im) (complexUnder_plain re im)

end

end Format

/-! ## Values -/

theorem Directive.not_standard_of_ofSpec? {spec} (h : ofSpec? (some spec) = none) :
    isStandardSpec spec = false := by
  unfold ofSpec? at h
  split at h
  · cases h
  · cases h
  · cases h
  · cases h
  · cases h
  · rename_i spec _ _ _ _ same
    cases same
    split at h
    · cases h
    · rename_i other
      exact eq_false_of_ne_true other

theorem Directive.ofSpec?_parts (p : SpecParts) : (ofSpec? (some p.text)).isSome := by
  cases asked : ofSpec? (some p.text) with
  | some d => rfl
  | none =>
      have standard : isStandardSpec p.text :=
        isStandardSpec_iff.mpr ⟨p, [], (List.append_nil _).symm, .none⟩
      rw [not_standard_of_ofSpec? asked] at standard
      cases standard

namespace Store

/-- Whether a value refuses a spec as one that is wrong in content. -/
def Refuses (s : Store) (v : Value) (spec : Text) : Prop :=
  ∃ f, s.format v spec = .error f ∧ f.kind = .badValue

variable {s : Store} {v : Value} {spec : Text}

theorem refuses_of {r : Except FormatFault Text} (result : s.format v spec = formatted r)
    (h : Refusal r) : s.Refuses v spec := by
  obtain ⟨e, rfl, ofSpec⟩ := h
  refine ⟨_, result, ?_⟩
  cases e with
  | unsupported typeName => exact ofSpec.elim
  | _ => rfl

end Store

/-- A spec that is rejected before there is a value would be refused by every truth value, integer
    and text, and by every float and complex number unless it is the parts of a spec with a null
    character behind them: then it does what the parts alone do, and these are not rejected. -/
theorem rejected_spec_refused {spec : Text} (rejected : Directive.ofSpec? (some spec) = none)
    (s : Store) :
    (∀ b, s.Refuses (.truth b) spec) ∧ (∀ i, s.Refuses (.int i) spec) ∧
      (∀ t, s.Refuses (.text t) spec) ∧
      ∀ v, ((∃ x, v = .float x) ∨ ∃ re im, v = .scalar (.complex re im)) →
        s.Refuses v spec ∨
          ∃ p : SpecParts, spec = p.text ++ ['\x00'] ∧
            (Directive.ofSpec? (some p.text)).isSome ∧ s.format v spec = s.format v p.text := by
  have check := Directive.not_standard_of_ofSpec? rejected
  have written := text_isEmpty check
  refine ⟨fun b => ?_, fun i => ?_, fun t => ?_, ?_⟩
  · have result : s.format (.truth b) spec =
        formatted (formatInteger "bool" (if b then 1 else 0) spec) := by
      simp only [Store.format, written, Bool.false_eq_true, if_false]
    exact Store.refuses_of result (formatInteger_rejected check _)
  · have result : s.format (.int i) spec = formatted (formatInteger "int" i spec) := by
      simp only [Store.format, written, Bool.false_eq_true, if_false]
    exact Store.refuses_of result (formatInteger_rejected check i)
  · exact Store.refuses_of rfl (formatText_rejected check t)
  · rintro v (⟨x, rfl⟩ | ⟨re, im, rfl⟩)
    · obtain refusal | ⟨p, null, same⟩ := formatFloat_rejected check x
      · exact .inl (Store.refuses_of rfl refusal)
      · exact .inr ⟨p, null, Directive.ofSpec?_parts p, congrArg formatted same⟩
    · obtain refusal | ⟨p, null, same⟩ := formatComplex_rejected check re im
      · exact .inl (Store.refuses_of rfl refusal)
      · exact .inr ⟨p, null, Directive.ofSpec?_parts p, congrArg formatted same⟩

/-- A letter that is none is refused by every number. -/
theorem rejected_spec_refused_q :
    Directive.ofSpec? (some "08q") = none ∧ Store.Refuses [] (.int 255) "08q" := by
  have rejected : Directive.ofSpec? (some "08q") = none := by decide
  exact ⟨rejected, (rejected_spec_refused rejected []).2.1 255⟩

/-- The null character is rejected as a spec, and a float takes it. -/
theorem null_spec_rejected_and_taken :
    Directive.ofSpec? (some ['\x00']) = none ∧
      Store.format [] (.float (Binary64.ofRatio false 3 2)) ['\x00'] = .ok "1.5" := by
  have read : FormatSpec.read "float" none .right ['\x00'] = .ok plainSpec := rfl
  have text : floatText (Binary64.ofRatio false 3 2) = "1.5" := by decide +kernel
  refine ⟨by decide, ?_⟩
  simp only [Store.format, formatFloat, underSpec, read, floatUnder_plain, text]
  rfl

end Stencil

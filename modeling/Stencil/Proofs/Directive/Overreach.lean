import Stencil.Proofs.Directive.Places
import Stencil.Proofs.Number.FloatRange

/-! # Numbers that a presentation cannot show

A value under a standard spec is shown or refuses the spec. Some numbers are the
exception: an integer that is the code of no character or that no float is near,
and a decimal number that needs a run of zeros or fill too long to be counted.
They fail with a fault of their own, which is passed on as it is and does not
count as a refusal of the spec.
-/

namespace Stencil

open Format

/-! ## Presentations -/

namespace Format

variable {spec : FormatSpec} {t : Text} {i : Int} {range : RangeFault}

/-- A result that is no fault of range. -/
def InRange (r : Except FormatFault Text) : Prop := ∀ range, r ≠ .error (.outOfRange range)

theorem inRange_ok : InRange (.ok t) := fun _ h => nomatch h

theorem inRange_refused (e : SpecFault) : InRange (.error (.refused e)) := fun _ h => nomatch h

theorem floatUnder_inRange (typeName : Text) (spec : FormatSpec) (x : Binary64) :
    InRange (floatUnder typeName spec x) := by
  unfold floatUnder
  split
  · apply inRange_refused
  · split
    · apply inRange_refused
    · apply inRange_ok

theorem complexUnder_inRange (spec : FormatSpec) (re im : Binary64) :
    InRange (complexUnder spec re im) := by
  unfold complexUnder
  split
  · apply inRange_refused
  · apply inRange_refused
  · repeat' split
    all_goals first | apply inRange_refused | apply inRange_ok

theorem textUnder_inRange (spec : FormatSpec) (t : Text) : InRange (textUnder spec t) := by
  unfold textUnder
  repeat' split
  all_goals first | apply inRange_refused | apply inRange_ok

theorem underSpec_inRange {under : FormatSpec → Except FormatFault Text}
    (h : ∀ spec, InRange (under spec)) (typeName : Text) (letter : Option Char) (align : Align)
    (t : Text) : InRange (underSpec typeName letter align under t) := by
  unfold underSpec
  split
  · apply inRange_refused
  · apply h

theorem formatFloat_inRange (x : Binary64) (t : Text) : InRange (formatFloat x t) := by
  unfold formatFloat
  split
  · apply inRange_ok
  · apply underSpec_inRange fun spec => floatUnder_inRange "float" spec x

theorem formatComplex_inRange (re im : Binary64) (t : Text) : InRange (formatComplex re im t) := by
  unfold formatComplex
  split
  · apply inRange_ok
  · apply underSpec_inRange fun spec => complexUnder_inRange spec re im

theorem formatText_inRange (text t : Text) : InRange (formatText text t) := by
  unfold formatText
  split
  · apply inRange_ok
  · apply underSpec_inRange fun spec => textUnder_inRange spec text

/-! ## Integers -/

/-- The letters that show the float nearest to an integer. -/
def nearestLetters : List (Option Char) :=
  [some 'e', some 'E', some 'f', some 'F', some 'g', some 'G', some '%']

/-- A spec asks for the character of an integer's code, or for the float nearest to it, and there
    is none. -/
inductive Overreach (spec : FormatSpec) (i : Int) : RangeFault → Prop where
  | character {range : RangeFault} (letter : spec.letter = some 'c')
      (precision : spec.precision = none)
      (negativeZero : spec.dropNegativeZero = false) (sign : spec.sign = none)
      (alternate : spec.alternate = false) (outside : codeFault? i = some range) :
      Overreach spec i range
  | nearest (letter : spec.letter ∈ nearestLetters) (outside : Binary64.limit ≤ i.natAbs) :
      Overreach spec i .noFloat

theorem charUnder_outOfRange_iff :
    charUnder spec i = .error (.outOfRange range) ↔
      spec.sign = none ∧ spec.alternate = false ∧ codeFault? i = some range := by
  unfold charUnder
  split
  · rename_i sign
    constructor
    · intro h
      cases h
    · rintro ⟨none, -, -⟩
      simp [none] at sign
  · rename_i sign
    split
    · rename_i alternate
      constructor
      · intro h
        cases h
      · rintro ⟨-, none, -⟩
        simp [none] at alternate
    · rename_i alternate
      split
      · rename_i outside
        simp_all
      · rename_i inside
        simp_all

theorem integerUnder_outOfRange_iff {typeName : Text} :
    integerUnder typeName spec i = .error (.outOfRange range) ↔ Overreach spec i range := by
  constructor
  · intro h
    unfold integerUnder at h
    split at h
    · rename_i letter
      split at h
      · cases h
      · rename_i precision
        split at h
        · cases h
        · rename_i negativeZero
          obtain ⟨sign, alternate, outside⟩ := charUnder_outOfRange_iff.mp h
          apply Overreach.character letter _ _ sign alternate outside
          · simpa using precision
          · simpa using negativeZero
    · split at h
      · cases h
      · split at h <;> cases h
    · split at h
      · rename_i letter
        split at h
        · exact absurd h (floatUnder_inRange _ _ _ range)
        · rename_i outside
          cases h
          exact .nearest letter (Binary64.ofInt?_eq_none_iff i |>.mp outside)
      · cases h
  · intro h
    cases h with
    | character letter precision negativeZero sign alternate outside =>
        have shown := charUnder_outOfRange_iff.mpr ⟨sign, alternate, outside⟩
        simpa [integerUnder, letter, integerBase?, precision, negativeZero] using shown
    | nearest letter outside =>
        have far := (Binary64.ofInt?_eq_none_iff i).mpr outside
        simp only [nearestLetters, List.mem_cons, List.not_mem_nil, or_false] at letter
        rcases letter with h | h | h | h | h | h | h <;>
          simp [integerUnder, h, integerBase?, far]

/-- A spec, read for an integer, does not reach as far as the integer. -/
def OverreachedBy (t : Text) (i : Int) (range : RangeFault) : Prop :=
  ∃ spec, FormatSpec.read "int" (some 'd') .right t = .ok spec ∧ Overreach spec i range

theorem formatInteger_outOfRange_iff {typeName : Text} :
    formatInteger typeName i t = .error (.outOfRange range) ↔
      ∃ spec, FormatSpec.read typeName (some 'd') .right t = .ok spec ∧
        Overreach spec i range := by
  unfold formatInteger underSpec
  cases read : FormatSpec.read typeName (some 'd') .right t with
  | error e => simp
  | ok spec => simpa using integerUnder_outOfRange_iff

/-- Truth values count as zero and one, which every presentation shows. -/
theorem not_overreach_truth (b : Bool) : ¬ Overreach spec (if b then 1 else 0) range := by
  intro h
  cases h with
  | character _ _ _ _ _ outside => cases b <;> cases outside
  | nearest _ outside =>
      obtain ⟨k, hk⟩ : ∃ k, k = 970 := ⟨970, rfl⟩
      have positive : 0 < 2 ^ k := Nat.two_pow_pos k
      have small : (if b then (1 : Int) else 0).natAbs ≤ 1 := by cases b <;> decide
      have far := Nat.le_trans outside small
      rw [Binary64.limit_eq hk] at far
      omega

/-! ## Decimal numbers -/

/-- A decimal number under a spec needs a run of characters that is too long to be counted: zeros
    behind its digits when it is rounded, zeros up to its point, or its padding. -/
inductive Overlong (spec : DecimalSpec) : Decimal → Prop where
  | rounding {negative : Bool} {c : Nat} {e : Int}
      (long : FormatSpec.maxCount < roundingZeros spec c e) : Overlong spec (.finite negative c e)
  | placing {negative : Bool} {c shown : Nat} {e e' place : Int}
      (rounded : roundedDecimal spec c e = (shown, e', place))
      (long : FormatSpec.maxCount < placingZeros shown place) :
      Overlong spec (.finite negative c e)
  | padding {d : Decimal} (atOnce : padsAtOnce spec d = true)
      (long : FormatSpec.maxCount < decimalPadding spec d) : Overlong spec d

theorem beyondCount_iff {spec : DecimalSpec} {d : Decimal} :
    beyondCount spec d = true ↔ Overlong spec d := by
  constructor
  · intro h
    simp only [beyondCount, Bool.or_eq_true, Bool.and_eq_true, decide_eq_true_eq] at h
    obtain digits | ⟨atOnce, long⟩ := h
    · cases d with
      | finite negative c e =>
          obtain long | long := (Bool.or_eq_true _ _).mp digits
          · exact .rounding (of_decide_eq_true long)
          · exact .placing rfl (of_decide_eq_true long)
      | infinity negative => cases digits
      | nan negative signaling code => cases digits
    · exact .padding atOnce long
  · intro h
    cases h with
    | rounding long => simp [beyondCount, long]
    | placing rounded long => simp [beyondCount, rounded, long]
    | padding atOnce long => simp [beyondCount, atOnce, long]

/-- The strict way refuses a spec, and in the loose way the number gets too long. -/
def OverlongBy (t : Text) (d : Decimal) : Prop :=
  DecimalSpec.read false t = none ∧
    ∃ spec, DecimalSpec.read true t = some spec ∧ Overlong spec d

theorem formatDecimal_outOfRange_iff {d : Decimal} :
    formatDecimal d t = .error (.outOfRange range) ↔ range = .noCount ∧ OverlongBy t d := by
  unfold formatDecimal OverlongBy
  cases strict : DecimalSpec.read false t with
  | some spec =>
      constructor
      · intro h
        dsimp only at h
        split at h <;> cases h
      · rintro ⟨-, ⟨⟩, -⟩
  | none =>
      cases loose : DecimalSpec.read true t with
      | none =>
          constructor
          · intro h
            cases h
          · rintro ⟨-, -, spec, ⟨⟩, -⟩
      | some spec =>
          dsimp only
          split
          · rename_i long
            have overlong := beyondCount_iff.mp long
            constructor
            · intro h
              cases h
              exact ⟨rfl, rfl, spec, rfl, overlong⟩
            · rintro ⟨rfl, -⟩
              rfl
          · rename_i short
            constructor
            · intro h
              cases h
            · rintro ⟨-, -, _, ⟨⟩, overlong⟩
              exact absurd (beyondCount_iff.mpr overlong) short

end Format

/-! ## Values -/

/-- A spec, read for a number, asks for more than the presentation reaches. -/
inductive Overreached (t : Text) : Value → RangeFault → Prop where
  | integer {i : Int} {range : RangeFault} (beyond : OverreachedBy t i range) :
      Overreached t (.int i) range
  | decimal {d : Decimal} (beyond : OverlongBy t d) : Overreached t (.decimal d) .noCount

namespace Store

variable {s : Store} {v : Value} {spec : Text}

/-- A value under a spec is shown, or refuses the spec as wrong in content or kind. -/
def Settles (s : Store) (v : Value) (spec : Text) : Prop :=
  (∃ t, s.format v spec = .ok t) ∨
    ∃ f, s.format v spec = .error f ∧ (f.kind = .badValue ∨ f.kind = .badType)

theorem settles_of {r : Except FormatFault Text} (result : s.format v spec = formatted r)
    (h : InRange r) : s.Settles v spec := by
  unfold Settles
  rw [result]
  cases r with
  | ok t => exact .inl ⟨t, rfl⟩
  | error e =>
      cases e with
      | refused reason =>
          refine .inr ⟨_, rfl, ?_⟩
          cases reason with
          | unsupported typeName => exact .inr rfl
          | _ => exact .inl rfl
      | outOfRange range => exact absurd rfl (h range)

theorem formatPlainly_settles (written : spec.isEmpty = false)
    (h : s.format v spec = s.formatPlainly v spec) : s.Settles v spec := by
  rw [formatPlainly, written] at h
  exact settles_of h (inRange_refused _)

theorem format_int (written : spec.isEmpty = false) (i : Int) :
    s.format (.int i) spec = formatted (formatInteger "int" i spec) := by
  simp only [format, written, Bool.false_eq_true, if_false]

theorem format_truth (written : spec.isEmpty = false) (b : Bool) :
    s.format (.truth b) spec = formatted (formatInteger "bool" (if b then 1 else 0) spec) := by
  simp only [format, written, Bool.false_eq_true, if_false]

theorem format_overreached (written : spec.isEmpty = false) {range : RangeFault}
    (h : Overreached spec v range) : s.format v spec = .error ⟨.overflow, range.message⟩ := by
  cases h with
  | @integer i range beyond =>
      have far : formatInteger "int" i spec = .error (.outOfRange range) :=
        formatInteger_outOfRange_iff.mpr beyond
      rw [format_int written, far]
      rfl
  | @decimal d beyond =>
      have far : formatDecimal d spec = .error (.outOfRange .noCount) :=
        formatDecimal_outOfRange_iff.mpr ⟨rfl, beyond⟩
      simp only [format, far]
      rfl

theorem format_settles (written : spec.isEmpty = false)
    (kind : (∃ x, v = .scalar x) ∨ ∃ d, v = .decimal d)
    (reached : ∀ range, ¬ Overreached spec v range) : s.Settles v spec := by
  obtain ⟨x, rfl⟩ | ⟨d, rfl⟩ := kind
  · cases x with
    | none => exact formatPlainly_settles written rfl
    | bytes bs => exact formatPlainly_settles written rfl
    | ellipsis => exact formatPlainly_settles written rfl
    | bool b =>
        apply settles_of (format_truth written b)
        intro range far
        obtain ⟨parts, -, beyond⟩ := formatInteger_outOfRange_iff.mp far
        exact not_overreach_truth b beyond
    | int i =>
        apply settles_of (format_int written i)
        intro range far
        exact reached range (.integer (formatInteger_outOfRange_iff.mp far))
    | float x => exact settles_of rfl (formatFloat_inRange x spec)
    | complex re im => exact settles_of rfl (formatComplex_inRange re im spec)
    | text t => exact settles_of rfl (formatText_inRange t spec)
  · apply settles_of rfl
    intro range far
    obtain ⟨rfl, overlong⟩ := formatDecimal_outOfRange_iff.mp far
    exact reached .noCount (.decimal overlong)

end Store

namespace Directive

variable {spec : Text} {v : Value}

theorem ne_empty_of_numeric (accepted : ofSpec? (some spec) = some (numeric spec)) :
    spec.isEmpty = false := by
  cases spec with
  | nil => cases accepted
  | cons c t => rfl

theorem effectiveSpec_isEmpty (v : Value) (written : spec.isEmpty = false) :
    (effectiveSpec v spec).isEmpty = false := by
  unfold effectiveSpec
  split
  · cases spec <;> rfl
  · exact written

/-- Rendering gives text, or reports the spec as one that the value refuses. -/
def GivesTextOrBadSpec (w : World) (d : Directive) (v : Value) (spec : Text) : Prop :=
  (∃ t, (d.render v).run w = (.ok t, w)) ∨
    ∃ reason, (d.render v).run w =
      (.error (.spec (.refused (v.typeName w.store) reason) spec none), w)

/-- Under a standard spec a scalar or a decimal gives text or a bad spec, with one exception: a
    number that the presentation does not reach, which is a character without a code, a float out
    of range or a run of characters too long to be counted, fails with the overflow itself. -/
theorem numeric_fails_by_spec_or_overflow {spec : Text} {v : Value}
    (accepted : ofSpec? (some spec) = some (numeric spec))
    (kind : (∃ x, v = .scalar x) ∨ ∃ d, v = .decimal d) (w : World) :
    ((∀ range, ¬ Overreached (effectiveSpec v spec) v range) →
        (numeric spec).GivesTextOrBadSpec w v (effectiveSpec v spec)) ∧
      ∀ range, Overreached (effectiveSpec v spec) v range →
        ((numeric spec).render v).run w = (.error (.fault ⟨.overflow, range.message⟩), w) := by
  have written := effectiveSpec_isEmpty v (ne_empty_of_numeric accepted)
  have formats := numeric_formatsAs v spec w
  constructor
  · intro reached
    unfold GivesTextOrBadSpec
    rw [formats]
    obtain ⟨t, shown⟩ | ⟨f, failed, refused⟩ :=
      Store.format_settles (s := w.store) written kind reached
    · rw [shown]
      exact .inl ⟨t, rfl⟩
    · rw [failed]
      refine .inr ⟨f.text, ?_⟩
      obtain bad | bad := refused <;>
        simp [Except.mapError, Store.refusal, bad, FaultKind.isBadValue]
  · intro range beyond
    rw [formats, Store.format_overreached written beyond]
    rfl

/-- No character has a negative code, no run of spaces is as long as the largest width asks for,
    and text has no character of its own. -/
theorem numeric_fails_by_spec_or_overflow_character :
    let w : World := .begin [] []
    let wide : Text := "9999999999999999999"
    ofSpec? (some "+>4c") = some (numeric "+>4c") ∧ ofSpec? (some wide) = some (numeric wide) ∧
      ((numeric "+>4c").render (.int (-5))).run w =
        (.error (.fault ⟨.overflow, "%c arg not in range(0x110000)"⟩), w) ∧
      ((numeric wide).render (.decimal (.finite false 15 (-1)))).run w =
        (.error (.fault ⟨.overflow, "cannot fit 'int' into an index-sized integer"⟩), w) ∧
      (numeric "+>4c").GivesTextOrBadSpec w (.text "c") "+>4c" := by
  intro w wide
  have accepted : ofSpec? (some "+>4c") = some (numeric "+>4c") := by decide
  have acceptedWide : ofSpec? (some wide) = some (numeric wide) := by decide
  have beyond : OverreachedBy "+>4c" (-5) .noCharacter :=
    ⟨_, rfl, .character rfl rfl rfl rfl rfl (by decide)⟩
  have long : OverlongBy wide (.finite false 15 (-1)) :=
    ⟨by decide, _, rfl, .padding rfl (by decide)⟩
  have ofInt := numeric_fails_by_spec_or_overflow accepted (.inl ⟨.int (-5), rfl⟩) w
  have ofDecimal :=
    numeric_fails_by_spec_or_overflow acceptedWide (.inr ⟨.finite false 15 (-1), rfl⟩) w
  have ofText := numeric_fails_by_spec_or_overflow accepted (.inl ⟨.text "c", rfl⟩) w
  refine ⟨accepted, acceptedWide, ofInt.2 .noCharacter (.integer beyond),
    ofDecimal.2 .noCount (.decimal long), ofText.1 ?_⟩
  intro range far
  cases far

/-- A negative number is the code of no character. -/
theorem overflow_of_negative_code :
    ofSpec? (some "1c") = some (numeric "1c") ∧
      ((numeric "1c").render (.int (-5))).run (.begin [] []) =
        (.error (.fault ⟨.overflow, "%c arg not in range(0x110000)"⟩), .begin [] []) := by
  exact ⟨by decide, rfl⟩

end Directive

end Stencil

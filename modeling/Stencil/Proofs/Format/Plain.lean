import Stencil.Format.Number
import Stencil.Proofs.Number.Digits

/-! # The plain form of a number

A float or a complex number under a spec that says nothing is shown as it is for
itself. The parts of a complex number are laid out one by one with the sign in
front, which gives the same text because a magnitude has no sign of its own.
-/

namespace Stencil

/-! ## Magnitudes -/

namespace Places

theorem ofGrid_digits (n : Nat) (e : Int) : ∀ c ∈ (ofGrid n e).digits, c.isDigit := by
  intro c h
  have sub := List.dropWhile_subset (· == '0') (List.mem_reverse.mp h)
  exact natText_isDigit c (List.mem_reverse.mp sub)

theorem zero_digits : ∀ c ∈ zero.digits, c.isDigit := by
  intro c h
  obtain rfl := List.mem_singleton.mp h
  rfl

theorem shortestFrom_digits (num den low high : Nat) (closed : Bool) (point : Int)
    (more count : Nat) :
    ∀ c ∈ (shortestFrom num den low high closed point more count).digits, c.isDigit := by
  induction more generalizing count with
  | zero => exact ofGrid_digits _ _
  | succ more ih =>
      simp only [shortestFrom]
      split
      · exact ofGrid_digits _ _
      · split
        · exact ofGrid_digits _ _
        · split
          · exact ofGrid_digits _ _
          · exact ih (count + 1)

theorem positionalText_unsigned {p : Places} (h : ∀ c ∈ p.digits, c.isDigit) (last : Int)
    (keepPoint : Bool) : '-' ∉ p.positionalText last keepPoint := by
  have digits {t : Text} (sub : t ⊆ p.digits) : '-' ∉ t := fun hc => absurd (h _ (sub hc)) (by decide)
  have padded {t : Text} (ht : '-' ∉ t) (width : Int) : '-' ∉ padZeros width t := by
    simp [padZeros, ht, List.mem_replicate]
  have whole : '-' ∉ if p.point ≤ 0 then ['0'] else padZeros p.point (p.digits.take p.point.toNat) := by
    split
    · decide
    · exact padded (digits (List.take_subset ..)) p.point
  have fraction : '-' ∉ padZeros (last - p.point)
      (List.replicate (-p.point).toNat '0' ++ p.digits.drop p.point.toNat) := by
    refine padded ?_ _
    simp [List.mem_replicate, digits (List.drop_subset p.point.toNat p.digits)]
  simp only [positionalText, List.mem_append, not_or]
  refine ⟨whole, ?_⟩
  split
  · cases keepPoint with
    | false => decide
    | true => decide
  · simpa using fraction

end Places

namespace FloatStyle

theorem places_digits (style : FloatStyle) (m : Nat) (e : Int) :
    ∀ c ∈ (style.places m e).digits, c.isDigit := by
  unfold places
  split
  · unfold Places.shortest
    split
    · exact Places.zero_digits
    · exact Places.shortestFrom_digits _ _ _ _ _ _ _ _
  · unfold Places.significant
    split
    · exact Places.zero_digits
    · exact Places.ofGrid_digits _ _
  · unfold Places.significant
    split
    · exact Places.zero_digits
    · exact Places.ofGrid_digits _ _
  · simp only [Places.fixed]
    split
    · exact Places.zero_digits
    · split
      · simp
      · exact Places.ofGrid_digits _ _

theorem digitsText_unsigned (style : FloatStyle) {p : Places} (h : ∀ c ∈ p.digits, c.isDigit) :
    (style.digitsText p).head? ≠ some '-' := by
  have digits (point last : Int) :
      '-' ∉ (Places.mk p.digits point).positionalText last style.alternate :=
    Places.positionalText_unsigned (p := ⟨p.digits, point⟩) h last style.alternate
  simp only [digitsText]
  split
  · intro first
    cases text : (Places.mk p.digits 1).positionalText (style.lastPlace p) style.alternate with
    | nil =>
        rw [text, exponentText] at first
        split at first
        · cases first
        · cases first
    | cons c t =>
        rw [text] at first
        cases first
        exact digits 1 (style.lastPlace p) (by simp [text])
  · exact fun first => digits p.point _ (List.mem_of_mem_head? first)

theorem parts_unsigned (style : FloatStyle) (x : Binary64) :
    (style.parts x).2.head? ≠ some '-' := by
  cases x with
  | nan =>
      simp only [parts]
      split
      · decide
      · decide
  | infinity s =>
      simp only [parts]
      split
      · decide
      · decide
  | finite s m e => exact style.digitsText_unsigned (style.places_digits m e)

end FloatStyle

namespace Format

/-! ## Numbers under a spec that says nothing -/

/-- What is read from an empty spec. -/
def plainSpec : FormatSpec := ⟨' ', .right, none, false, false, none, none, none, none⟩

theorem read_plain (typeName : Text) :
    FormatSpec.read typeName none .right [] = .ok plainSpec := rfl

theorem groupedDigits_plain (digits : Text) :
    (if digits.isEmpty then [] else groupedDigits none 0 digits) = digits := by
  cases digits with
  | nil => rfl
  | cons c digits => simp [groupedDigits]

theorem pad_unpadded {spec : FormatSpec} (h : spec.width = none) (t : Text) : spec.pad t = t := by
  simp only [FormatSpec.pad, h]
  cases spec.align with
  | left | right | center | inside => simp

theorem layOut_unpadded {spec : FormatSpec} (h : spec.width = none) (parts : NumberParts) :
    layOut spec none parts =
      signText spec.sign parts.negative ++ parts.lead ++ parts.digits ++ parts.rest := by
  simp only [layOut, pad_unpadded h, h, Option.getD_none, Nat.zero_sub, ite_self,
    groupedDigits_plain]
  cases spec.align with
  | left | right | center | inside => simp

theorem layOut_cut {spec : FormatSpec} (h : spec.width = none) (negative : Bool) (t : Text) :
    layOut spec none ⟨negative, [], (cutDigits t).1, (cutDigits t).2⟩ =
      signText spec.sign negative ++ t := by
  have whole : (cutDigits t).1 ++ (cutDigits t).2 = t := List.takeWhile_append_dropWhile
  simp only [layOut_unpadded h, List.append_nil, List.append_assoc, whole]

theorem signText_none (negative : Bool) (t : Text) :
    signText none negative ++ t = if negative then '-' :: t else t := by
  cases negative with
  | false => rfl
  | true => rfl

theorem floatUnder_plain (typeName : Text) (x : Binary64) :
    floatUnder typeName plainSpec x = .ok (floatText x) := by
  have style : floatStyle? plainSpec false = some FloatStyle.plain := rfl
  have small : ¬ FloatStyle.plain.precision > maxPrecision := by decide
  have letter : ¬ plainSpec.letter = some '%' := by decide
  have grouping : groupingOf plainSpec = none := rfl
  simp only [floatUnder, style, small, letter, grouping, if_false, List.append_nil]
  rw [layOut_cut rfl]
  exact congrArg Except.ok (signText_none _ _)

def bareStyle : FloatStyle := { FloatStyle.plain with pointZero := false }

theorem bareFloatText_eq (x : Binary64) :
    bareFloatText x = signText none (bareStyle.parts x).1 ++ (bareStyle.parts x).2 :=
  (signText_none _ _).symm

/-- Behind the real part the imaginary one has a sign in front, its own or a plus. -/
theorem bareFloatText_signed (x : Binary64) :
    (if (bareFloatText x).head? == some '-' then bareFloatText x else '+' :: bareFloatText x) =
      signText (some .plus) (bareStyle.parts x).1 ++ (bareStyle.parts x).2 := by
  have unsigned := bareStyle.parts_unsigned x
  rw [bareFloatText_eq]
  cases (bareStyle.parts x).1 with
  | true => rfl
  | false => simp [signText, unsigned]

theorem complexPart_plain (sign : Option SignStyle) (x : Binary64) :
    complexPart plainSpec bareStyle sign x =
      signText sign (bareStyle.parts x).1 ++ (bareStyle.parts x).2 := by
  have grouping : groupingOf plainSpec = none := rfl
  simp only [complexPart, grouping]
  rw [layOut_cut rfl]

theorem complexParts_plain (re im : Binary64) :
    complexParts plainSpec bareStyle re im = complexText re im := by
  simp only [complexParts, complexPart_plain, complexText, bareFloatText_signed]
  have plain : plainSpec.letter = none := rfl
  have sign : plainSpec.sign = none := rfl
  simp only [plain, sign, decide_true, Bool.true_and, ← bareFloatText_eq]
  cases re.isZero && !re.isNegative with
  | true => rfl
  | false => simp

theorem complexUnder_plain (re im : Binary64) :
    complexUnder plainSpec re im = .ok (complexText re im) := by
  change Except.ok (plainSpec.pad (complexParts plainSpec bareStyle re im)) =
    .ok (complexText re im)
  rw [pad_unpadded rfl, complexParts_plain]

end Format

end Stencil

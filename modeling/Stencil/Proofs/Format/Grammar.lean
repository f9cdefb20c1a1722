import Mathlib.Data.List.TakeWhile
import Stencil.Format.Standard

/-! # The grammar of format specs

A format spec is its parts one behind the other, each of them optional, and a
presentation letter; any character may be a fill, so a text can be a spec in more
ways than one. The check of specs takes what it can for each part and never goes
back. It accepts the texts of the grammar all the same: behind fill and alignment
no character can start two parts, and the parts stand in one order.
-/

namespace Stencil.Format

variable {k : Nat} {p : Char → Bool} {a t rest : Text}

/-- Nothing, or one character of a class. -/
inductive Upto (p : Char → Bool) : Text → Prop where
  | none : Upto p []
  | one {c} : p c → Upto p [c]

/-- Nothing, or an alignment with or without a fill. -/
inductive IsFront : Text → Prop where
  | none : IsFront []
  | bare {c} : isAlign c → IsFront [c]
  /-- The fill is any character. -/
  | filled {c} (fill : Char) : isAlign c → IsFront [fill, c]

/-- Nothing, or a point and digits. -/
inductive IsPrecision : Text → Prop where
  | none : IsPrecision []
  | places {ds} : ds ≠ [] → (∀ c ∈ ds, isDecimal c) → IsPrecision ('.' :: ds)

/-- The parts of a format spec in front of its presentation letter. -/
structure SpecParts where
  front : Text
  sign : Text
  negativeZero : Text
  alternate : Text
  /-- The width, with the zero that may stand in front of it. -/
  digits : Text
  separator : Text
  precision : Text
  front_ok : IsFront front
  sign_ok : Upto isSign sign
  negativeZero_ok : Upto (· == 'z') negativeZero
  alternate_ok : Upto (· == '#') alternate
  digits_ok : ∀ c ∈ digits, isDecimal c
  separator_ok : Upto isSeparator separator
  precision_ok : IsPrecision precision

namespace SpecParts

def tail (p : SpecParts) : Text :=
  p.sign ++ (p.negativeZero ++ (p.alternate ++ (p.digits ++ (p.separator ++ p.precision))))

def text (p : SpecParts) : Text := p.front ++ p.tail

end SpecParts

/-! ## The order of the parts -/

/-- The place among the parts behind fill and alignment that a character has. -/
def rank (c : Char) : Nat :=
  if isSign c then 0
  else if c == 'z' then 1
  else if c == '#' then 2
  else if isDecimal c then 3
  else if isSeparator c then 4
  else if c == '.' then 5
  else 6

theorem rank_sign {c} (h : isSign c) : rank c = 0 := if_pos h

theorem rank_negativeZero {c} (h : c == 'z') : rank c = 1 := by
  obtain rfl := beq_iff_eq.mp h
  decide

theorem rank_alternate {c} (h : c == '#') : rank c = 2 := by
  obtain rfl := beq_iff_eq.mp h
  decide

theorem rank_decimal {c} (h : isDecimal c) : rank c = 3 := by
  -- there are digits in many scripts, so the few characters before them are checked instead
  have sign : isSign c = false := by
    cases s : isSign c with
    | false => rfl
    | true =>
        have all : ['-', '+', ' '].all (!isDecimal ·) := by decide
        have other := List.all_eq_true.mp all c (by simpa [isSign] using s)
        rw [h] at other
        cases other
  have z : (c == 'z') = false := by
    rw [beq_eq_false_iff_ne]
    rintro rfl
    revert h
    decide
  have hash : (c == '#') = false := by
    rw [beq_eq_false_iff_ne]
    rintro rfl
    revert h
    decide
  simp [rank, sign, z, hash, h]

theorem rank_separator {c} (h : isSeparator c) : rank c = 4 := by
  have all : [',', '_'].all (rank · == 4) := by decide
  exact beq_iff_eq.mp (List.all_eq_true.mp all c (by simpa [isSeparator] using h))

theorem rank_letter {c} (h : isLetter c) : rank c = 6 := by
  have all : ['b', 'c', 'd', 'e', 'E', 'f', 'F', 'g', 'G', 'n', 'o', 's', 'x', 'X', '%'].all
      (rank · == 6) := by decide
  exact beq_iff_eq.mp (List.all_eq_true.mp all c (by simpa [isLetter] using h))

theorem rank_align {c} (h : isAlign c) : rank c = 6 := by
  have all : ['<', '>', '=', '^'].all (rank · == 6) := by decide
  exact beq_iff_eq.mp (List.all_eq_true.mp all c (by simpa [isAlign] using h))

/-- Whether a text starts with a part of a place or a later one, if with anything. -/
def StartsFrom (k : Nat) (t : Text) : Prop := ∀ c ∈ t.head?, k ≤ rank c

theorem StartsFrom.nil : StartsFrom k [] := fun _ h => nomatch h

theorem StartsFrom.mono {m} (h : StartsFrom m t) (le : k ≤ m) : StartsFrom k t :=
  fun c first => le.trans (h c first)

theorem StartsFrom.append (h : StartsFrom k a) (behind : StartsFrom k rest) :
    StartsFrom k (a ++ rest) := by
  cases a with
  | nil => exact behind
  | cons c a => exact h

theorem Upto.startsFrom (h : Upto p a) (place : ∀ {c}, p c → rank c = k) : StartsFrom k a := by
  cases h with
  | none => exact .nil
  | one hc =>
      rintro _ ⟨⟩
      exact (place hc).ge

theorem IsPrecision.startsFrom (h : IsPrecision a) : StartsFrom 5 a := by
  cases h with
  | none => exact .nil
  | places =>
      rintro _ ⟨⟩
      decide

theorem startsFrom_digits (h : ∀ c ∈ a, isDecimal c) : StartsFrom 3 a := by
  intro c first
  exact (rank_decimal (h c (List.mem_of_mem_head? first))).ge

/-! ## Taking one part -/

theorem Upto.skip (h : Upto p a) (place : ∀ {c}, p c → rank c = k)
    (behind : StartsFrom (k + 1) rest) : skipOne p (a ++ rest) = rest := by
  cases h with
  | one hc => simp [skipOne, hc]
  | none =>
      cases rest with
      | nil => rfl
      | cons c rest =>
          have late : k + 1 ≤ rank c := behind c rfl
          have other : ¬ p c := fun hc => by have := place hc; omega
          simp [skipOne, other]

theorem dropWhile_digits (h : ∀ c ∈ a, isDecimal c) (behind : StartsFrom 4 rest) :
    (a ++ rest).dropWhile isDecimal = rest := by
  rw [List.dropWhile_append_of_pos h]
  cases rest with
  | nil => rfl
  | cons c rest =>
      have late : 4 ≤ rank c := behind c rfl
      have other : ¬ isDecimal c := fun hc => by have := rank_decimal hc; omega
      simp [other]

theorem IsPrecision.skip (h : IsPrecision a) (behind : StartsFrom 6 rest) :
    skipPrecision (a ++ rest) = rest := by
  cases h with
  | none =>
      cases rest with
      | nil => rfl
      | cons c rest =>
          have other : c ≠ '.' := by
            rintro rfl
            exact absurd (behind '.' rfl) (by decide)
          unfold skipPrecision
          split
          · rename_i same
            exact absurd (List.cons.inj same).1 other
          · rfl
  | places some digits =>
      rename_i ds
      cases ds with
      | nil => exact absurd rfl some
      | cons d ds =>
          have first : isDecimal d := digits d (by simp)
          have others : ∀ e ∈ ds, isDecimal e := fun e he => digits e (by simp [he])
          simp only [List.cons_append, skipPrecision, first, if_true]
          exact dropWhile_digits others (behind.mono (by decide))

theorem exists_upto (p : Char → Bool) (t : Text) :
    ∃ a rest, t = a ++ rest ∧ Upto p a ∧ skipOne p t = rest := by
  cases t with
  | nil => exact ⟨[], [], rfl, .none, rfl⟩
  | cons c t =>
      by_cases h : p c
      · exact ⟨[c], t, rfl, .one h, if_pos h⟩
      · exact ⟨[], c :: t, rfl, .none, if_neg h⟩

theorem exists_digits (t : Text) :
    ∃ a rest, t = a ++ rest ∧ (∀ c ∈ a, isDecimal c) ∧ t.dropWhile isDecimal = rest :=
  ⟨t.takeWhile isDecimal, t.dropWhile isDecimal, List.takeWhile_append_dropWhile.symm,
    fun _ => List.mem_takeWhile_imp, rfl⟩

theorem exists_precision (t : Text) :
    ∃ a rest, t = a ++ rest ∧ IsPrecision a ∧ skipPrecision t = rest := by
  unfold skipPrecision
  split
  · rename_i c t
    split
    · rename_i first
      obtain ⟨a, rest, rfl, digits, cut⟩ := exists_digits t
      exact ⟨'.' :: c :: a, rest, rfl, .places (by simp) (by simpa [first] using digits), cut⟩
    · exact ⟨[], _, rfl, .none, rfl⟩
  · exact ⟨[], _, rfl, .none, rfl⟩

/-! ## All parts -/

/-- What is left of a text behind the parts of a spec, each taken if it is there. -/
def afterParts (t : Text) : Text :=
  let t := skipOne (· == '#') (skipOne (· == 'z') (skipOne isSign t))
  skipPrecision (skipOne isSeparator (t.dropWhile isDecimal))

theorem SpecParts.afterParts_tail (p : SpecParts) (behind : StartsFrom 6 rest) :
    afterParts (p.tail ++ rest) = rest := by
  have precision := p.precision_ok.startsFrom.append (behind.mono (k := 5) (by decide))
  have separator := (p.separator_ok.startsFrom rank_separator).append (precision.mono (by decide))
  have digits := (startsFrom_digits p.digits_ok).append (separator.mono (by decide))
  have alternate := (p.alternate_ok.startsFrom rank_alternate).append (digits.mono (by decide))
  have negativeZero :=
    (p.negativeZero_ok.startsFrom rank_negativeZero).append (alternate.mono (by decide))
  simp only [afterParts, tail, List.append_assoc]
  rw [p.sign_ok.skip rank_sign negativeZero, p.negativeZero_ok.skip rank_negativeZero alternate,
    p.alternate_ok.skip rank_alternate digits, dropWhile_digits p.digits_ok separator,
    p.separator_ok.skip rank_separator precision, p.precision_ok.skip behind]

theorem exists_parts {front} (h : IsFront front) (t : Text) :
    ∃ p : SpecParts, front ++ t = p.text ++ afterParts t := by
  obtain ⟨sign, t, rfl, hs, cut₁⟩ := exists_upto isSign t
  obtain ⟨z, t, rfl, hz, cut₂⟩ := exists_upto (· == 'z') t
  obtain ⟨alternate, t, rfl, ha, cut₃⟩ := exists_upto (· == '#') t
  obtain ⟨digits, t, rfl, hd, cut₄⟩ := exists_digits t
  obtain ⟨separator, t, rfl, hg, cut₅⟩ := exists_upto isSeparator t
  obtain ⟨precision, t, rfl, hp, cut₆⟩ := exists_precision t
  refine ⟨⟨front, sign, z, alternate, digits, separator, precision, h, hs, hz, ha, hd, hg, hp⟩, ?_⟩
  simp only [afterParts, cut₁, cut₂, cut₃, cut₄, cut₅, cut₆]
  simp only [SpecParts.text, SpecParts.tail, List.append_assoc]

/-! ## The check -/

theorem isSpecTail_iff : isSpecTail t ↔ Upto isLetter (afterParts t) := by
  change (skipOne isLetter (afterParts t)).isEmpty ↔ _
  rw [List.isEmpty_iff]
  constructor
  · intro h
    obtain ⟨letter, rest, cut, one, skipped⟩ := exists_upto isLetter (afterParts t)
    obtain rfl : [] = rest := h.symm.trans skipped
    rwa [cut, List.append_nil]
  · intro h
    simpa using h.skip rank_letter StartsFrom.nil

/-- The check accepts a text just when it consists of the parts of a spec and at most one letter. -/
theorem isStandardSpec_iff :
    isStandardSpec t ↔
      ∃ (p : SpecParts) (letter : Text), t = p.text ++ letter ∧ Upto isLetter letter := by
  constructor
  · intro h
    have found {front t} (hf : IsFront front) (h : isSpecTail t) :
        ∃ (p : SpecParts) (letter : Text), front ++ t = p.text ++ letter ∧ Upto isLetter letter := by
      obtain ⟨p, cut⟩ := exists_parts hf t
      exact ⟨p, _, cut, isSpecTail_iff.mp h⟩
    simp only [isStandardSpec, Bool.or_eq_true] at h
    obtain (h | h) | h := h
    · exact found .none h
    · cases t with
      | nil => cases h
      | cons c t =>
          obtain ⟨hc, h⟩ := (Bool.and_eq_true _ _).mp h
          exact found (.bare hc) h
    · match t with
      | [] | [_] => cases h
      | fill :: c :: t =>
          obtain ⟨hc, h⟩ := (Bool.and_eq_true _ _).mp h
          exact found (.filled fill hc) h
  · rintro ⟨p, letter, rfl, one⟩
    have last : afterParts (p.tail ++ letter) = letter :=
      p.afterParts_tail (one.startsFrom rank_letter)
    have h : isSpecTail (p.tail ++ letter) := isSpecTail_iff.mpr (by rwa [last])
    have front := p.front_ok
    simp only [SpecParts.text, List.append_assoc, isStandardSpec, Bool.or_eq_true]
    -- whichever way the spec begins, it is one of the three that the check tries
    generalize p.front = written at front
    cases front with
    | none => exact .inl (.inl h)
    | bare hc => exact .inl (.inr (by simp [hc, h]))
    | filled fill hc => exact .inr (by simp [hc, h])

end Stencil.Format

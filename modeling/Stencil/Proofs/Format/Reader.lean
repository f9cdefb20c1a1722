import Mathlib.Data.List.TakeWhile
import Stencil.Format.Spec
import Stencil.Proofs.Format.Grammar
import Stencil.Proofs.Number.Digits

/-! # What the reader of format specs takes

The reader of format specs commits to each part as it goes. What it takes are the
parts of a spec as the grammar has them, so that a spec it reads to the end is one
that the check accepts, up to the letter. The letter is not looked at: any
character may stand there, and the null character says that there is none.
-/

namespace Stencil.FormatSpec

open Format

variable {c : Char} {t rest : Text}

/-! ## One part -/

theorem isAlign_of_ofChar? {a} (h : Align.ofChar? c = some a) : isAlign c := by
  unfold Align.ofChar? at h
  split at h
  · rfl
  · rfl
  · rfl
  · rfl
  · cases h

theorem isSign_eq (c : Char) : isSign c = (SignStyle.ofChar? c).isSome := by
  unfold SignStyle.ofChar?
  split
  · rfl
  · rfl
  · rfl
  · simp_all [isSign]

theorem splitAlign_front (t : Text) : ∃ front, IsFront front ∧ t = front ++ (splitAlign t).2.2 := by
  unfold splitAlign
  split
  · rename_i c d t
    split
    · rename_i h
      exact ⟨[c, d], .filled c (isAlign_of_ofChar? h), rfl⟩
    · split
      · rename_i h
        exact ⟨[c], .bare (isAlign_of_ofChar? h), rfl⟩
      · exact ⟨[], .none, rfl⟩
  · rename_i c
    split
    · rename_i h
      exact ⟨[c], .bare (isAlign_of_ofChar? h), rfl⟩
    · exact ⟨[], .none, rfl⟩
  · exact ⟨[], .none, rfl⟩

theorem splitSignStyle_rest (t : Text) : (splitSignStyle t).2 = skipOne isSign t := by
  cases t with
  | nil => rfl
  | cons c t =>
      simp only [splitSignStyle, skipOne, isSign_eq]
      cases SignStyle.ofChar? c with
      | none => rfl
      | some s => rfl

theorem splitFlag_cases (c : Char) (t : Text) :
    (∃ rest, t = c :: rest ∧ splitFlag c t = (true, rest)) ∨
      (∀ d ∈ t.head?, d ≠ c) ∧ splitFlag c t = (false, t) := by
  cases t with
  | nil => exact .inr ⟨by simp, rfl⟩
  | cons d t =>
      by_cases h : d = c
      · exact .inl ⟨t, by rw [h], by simp [splitFlag, h]⟩
      · exact .inr ⟨by simpa using h, by simp [splitFlag, h]⟩

theorem splitFlag_rest (c : Char) (t : Text) : (splitFlag c t).2 = skipOne (· == c) t := by
  cases t with
  | nil => rfl
  | cons d t => by_cases h : d = c <;> simp [splitFlag, skipOne, h]

theorem splitZero_rest (fill? : Option Char) (t : Text) :
    (splitZero fill? t).2.dropWhile isDecimal = t.dropWhile isDecimal := by
  unfold splitZero
  split
  · obtain ⟨rest, rfl, zero⟩ | ⟨_, zero⟩ := splitFlag_cases '0' t
    · have digit : isDecimal '0' := by decide
      simp [zero, digit]
    · simp [zero]
  · rfl

theorem readCount_rest {n} (h : readCount t = .ok (n, rest)) : t.dropWhile isDecimal = rest := by
  rw [← spanDigits_rest]
  unfold readCount at h
  cases cut : spanDigits t with
  | mk ds r =>
      simp only [cut] at h
      split at h
      · cases h
        rfl
      · split at h
        · cases h
          rfl
        · cases h

theorem readCount_some {n} (h : readCount t = .ok (some n, rest)) :
    ∃ c more, t = c :: more ∧ isDecimal c := by
  cases t with
  | nil => cases h
  | cons c more =>
      cases hd : digitValue? c with
      | some d => exact ⟨c, more, rfl, by simp [isDecimal, hd]⟩
      | none => simp [readCount, spanDigits, hd] at h

theorem readGrouping_rest {g} (h : readGrouping t = .ok (g, rest)) :
    skipOne isSeparator t = rest := by
  unfold readGrouping at h
  obtain ⟨r, rfl, comma⟩ | ⟨noComma, comma⟩ := splitFlag_cases ',' t
  · obtain ⟨r, rfl, underscore⟩ | ⟨_, underscore⟩ := splitFlag_cases '_' r
    · simp [comma, underscore] at h
    · simp only [comma, underscore] at h
      cases h
      rfl
  · obtain ⟨r, rfl, underscore⟩ | ⟨noUnderscore, underscore⟩ := splitFlag_cases '_' t
    · simp only [comma, underscore] at h
      split at h
      · cases h
      · split at h
        · cases h
        · cases h
          rfl
    · simp only [comma, underscore] at h
      cases h
      cases t with
      | nil => rfl
      | cons c t =>
          have other : isSeparator c = false := by
            simp [isSeparator, noComma c rfl, noUnderscore c rfl]
          simp [skipOne, other]

theorem readPrecision_none (h : c ≠ '.') (t : Text) :
    readPrecision (c :: t) = .ok (none, c :: t) := by
  unfold readPrecision
  split
  · rename_i point
    exact absurd (List.cons.inj point).1 h
  · rfl

theorem readPrecision_rest {n} (h : readPrecision t = .ok (n, rest)) :
    skipPrecision t = rest := by
  unfold readPrecision at h
  split at h
  · rename_i t
    cases count : readCount t with
    | error e =>
        rw [count] at h
        cases h
    | ok read =>
        obtain ⟨m, r⟩ := read
        rw [count] at h
        cases m with
        | none => cases h
        | some m =>
            cases h
            obtain ⟨c, more, rfl, first⟩ := readCount_some count
            have left := readCount_rest count
            rw [List.dropWhile_cons_of_pos first] at left
            simp [skipPrecision, first, left]
  · rename_i noPoint
    cases h
    unfold skipPrecision
    split
    · exact absurd rfl (noPoint _)
    · rfl

/-! ## All parts -/

/-- What the reader takes are the parts of a spec. -/
theorem readParts_sound {align spec} (h : readParts align t = .ok (spec, rest)) :
    ∃ p : SpecParts, t = p.text ++ rest := by
  obtain ⟨front, hf, cut⟩ := splitAlign_front t
  simp only [readParts, bind, Except.bind] at h
  split at h
  · cases h
  · rename_i width
    split at h
    · cases h
    · rename_i grouping
      split at h
      · cases h
      · rename_i precision
        cases h
        obtain ⟨p, parts⟩ := exists_parts hf (splitAlign t).2.2
        refine ⟨p, ?_⟩
        rw [cut, parts, ← readPrecision_rest precision, ← readGrouping_rest grouping,
          ← readCount_rest width, splitZero_rest, splitFlag_rest, splitFlag_rest,
          splitSignStyle_rest]
        rfl

/-! ## A character behind the parts -/

/-- Whether a character stands in none of the parts. -/
structure Behind (c : Char) : Prop where
  place : rank c = 6
  noAlign : Align.ofChar? c = none

namespace Behind

variable (h : Behind c)
include h

theorem noSign : SignStyle.ofChar? c = none := by
  cases sign : SignStyle.ofChar? c with
  | none => rfl
  | some s =>
      have first : rank c = 0 := rank_sign (by rw [isSign_eq, sign]; rfl)
      exact absurd (first.symm.trans h.place) (by decide)

theorem noDigit : digitValue? c = none := by
  cases digit : digitValue? c with
  | none => rfl
  | some d =>
      have width : rank c = 3 := rank_decimal (by rw [isDecimal, digit]; rfl)
      exact absurd (width.symm.trans h.place) (by decide)

theorem ne {d} (other : rank d ≠ 6) : c ≠ d := by
  rintro rfl
  exact other h.place

theorem splitAlign_append (t : Text) :
    splitAlign (t ++ [c]) = ((splitAlign t).1, (splitAlign t).2.1, (splitAlign t).2.2 ++ [c]) := by
  match t with
  | [] => simp [splitAlign, h.noAlign]
  | [d] =>
      cases ha : Align.ofChar? d with
      | none => simp [splitAlign, h.noAlign, ha]
      | some a => simp [splitAlign, h.noAlign, ha]
  | d :: e :: t =>
      simp only [List.cons_append, splitAlign]
      cases Align.ofChar? e with
      | some a => rfl
      | none =>
          cases Align.ofChar? d with
          | some a => rfl
          | none => rfl

theorem splitSignStyle_append (t : Text) :
    splitSignStyle (t ++ [c]) = ((splitSignStyle t).1, (splitSignStyle t).2 ++ [c]) := by
  cases t with
  | nil => simp [splitSignStyle, h.noSign]
  | cons d t =>
      simp only [List.cons_append, splitSignStyle]
      cases SignStyle.ofChar? d with
      | none => rfl
      | some s => rfl

theorem splitFlag_append {d} (other : rank d ≠ 6) (t : Text) :
    splitFlag d (t ++ [c]) = ((splitFlag d t).1, (splitFlag d t).2 ++ [c]) := by
  cases t with
  | nil => simp [splitFlag, h.ne other]
  | cons e t => by_cases he : e = d <;> simp [splitFlag, he]

theorem splitZero_append (fill? : Option Char) (t : Text) :
    splitZero fill? (t ++ [c]) = ((splitZero fill? t).1, (splitZero fill? t).2 ++ [c]) := by
  unfold splitZero
  split
  · exact h.splitFlag_append (by decide) t
  · rfl

theorem spanDigits_append (t : Text) :
    spanDigits (t ++ [c]) = ((spanDigits t).1, (spanDigits t).2 ++ [c]) := by
  induction t with
  | nil => simp [spanDigits, h.noDigit]
  | cons d t ih =>
      simp only [List.cons_append, spanDigits, ih]
      cases digitValue? d with
      | none => rfl
      | some n => rfl

theorem readCount_append (t : Text) :
    readCount (t ++ [c]) = (readCount t).map fun r => (r.1, r.2 ++ [c]) := by
  simp only [readCount, h.spanDigits_append]
  split
  · rfl
  · split
    · rfl
    · rfl

theorem readGrouping_append (t : Text) :
    readGrouping (t ++ [c]) = (readGrouping t).map fun r => (r.1, r.2 ++ [c]) := by
  have comma : c ≠ ',' := h.ne (by decide)
  have first (u : Text) : ((u ++ [c]).head? == some ',') = (u.head? == some ',') := by
    cases u with
    | nil => simp [comma]
    | cons d u => rfl
  simp only [readGrouping, h.splitFlag_append (d := ',') (by decide),
    h.splitFlag_append (d := '_') (by decide), first]
  split
  · rfl
  · split
    · rfl
    · rfl

theorem readPrecision_append (t : Text) :
    readPrecision (t ++ [c]) = (readPrecision t).map fun r => (r.1, r.2 ++ [c]) := by
  have point : c ≠ '.' := h.ne (by decide)
  cases t with
  | nil => exact readPrecision_none point []
  | cons d t =>
      by_cases hd : d = '.'
      · subst hd
        simp only [List.cons_append, readPrecision, h.readCount_append]
        cases readCount t with
        | error e => rfl
        | ok r =>
            obtain ⟨n, r⟩ := r
            cases n with
            | none => rfl
            | some n => rfl
      · rw [List.cons_append, readPrecision_none hd, readPrecision_none hd]
        rfl

/-- Reading the parts does not notice what stands behind them. -/
theorem readParts_append (align : Align) (t : Text) :
    readParts align (t ++ [c]) = (readParts align t).map fun r => (r.1, r.2 ++ [c]) := by
  simp only [readParts, bind, Except.bind, h.splitAlign_append, h.splitSignStyle_append,
    h.splitFlag_append (d := 'z') (by decide), h.splitFlag_append (d := '#') (by decide),
    h.splitZero_append, h.readCount_append]
  cases readCount (splitZero (splitAlign t).1
      (splitFlag '#' (splitFlag 'z' (splitSignStyle (splitAlign t).2.2).2).2).2).2 with
  | error e => rfl
  | ok width =>
      simp only [Except.map, h.readGrouping_append]
      cases readGrouping width.2 with
      | error e => rfl
      | ok grouping =>
          simp only [Except.map, h.readPrecision_append]
          cases readPrecision grouping.2 with
          | error e => rfl
          | ok precision => rfl

end Behind

theorem null_behind : Behind '\x00' := ⟨by decide, by decide⟩

theorem readParts_null {align spec} (h : readParts align (t ++ ['\x00']) = .ok (spec, ['\x00'])) :
    readParts align t = .ok (spec, []) := by
  rw [null_behind.readParts_append] at h
  cases read : readParts align t with
  | error e =>
      rw [read] at h
      cases h
  | ok r =>
      obtain ⟨parts, rest⟩ := r
      rw [read] at h
      obtain ⟨rfl, left⟩ := Prod.mk.inj (Except.ok.inj h)
      obtain rfl : rest = [] := by simpa using left
      rfl

/-! ## Whole specs -/

section

variable {typeName : Text} {letter : Option Char} {align : Align} {spec : FormatSpec}

theorem checked_ok {checked} (h : spec.checked = .ok checked) : checked = spec := by
  unfold FormatSpec.checked at h
  split at h
  · split at h
    · cases h
      rfl
    · cases h
  · cases h
    rfl

theorem checked_plain (h : spec.letter = none) : spec.checked = .ok spec := by
  unfold FormatSpec.checked
  rw [h]
  cases spec.grouping with
  | none => rfl
  | some g => rfl

theorem read_ok (h : read typeName letter align t = .ok spec) :
    ∃ parts rest l, readParts align t = .ok (parts, rest) ∧
      readLetter typeName letter t rest = .ok l ∧ spec = { parts with letter := l } := by
  simp only [read, bind, Except.bind] at h
  split at h
  · cases h
  · rename_i r parts
    split at h
    · cases h
    · rename_i l named
      exact ⟨r.1, r.2, l, parts, named, checked_ok h⟩

/-- A spec that the check rejects is read only with a character for a letter that is none, or with
    the null character, and then it is read as the parts in front of that. -/
theorem read_rejected (rejected : isStandardSpec t = false)
    (h : read typeName letter align t = .ok spec) :
    (∃ c, spec.letter = some c ∧ isLetter c = false) ∨
      spec.letter = none ∧ ∃ p : SpecParts, t = p.text ++ ['\x00'] ∧
        read typeName none align p.text = .ok spec := by
  obtain ⟨parts, rest, l, taken, named, rfl⟩ := read_ok h
  obtain ⟨p, rfl⟩ := readParts_sound taken
  -- with nothing or a letter behind the parts the check would have accepted the spec
  have noLetter {u} (one : Upto isLetter u) : rest ≠ u := by
    rintro rfl
    have standard := isStandardSpec_iff.mpr ⟨p, rest, rfl, one⟩
    rw [rejected] at standard
    cases standard
  match rest with
  | [] => exact absurd rfl (noLetter .none)
  | [c] =>
      by_cases null : c = '\x00'
      · subst null
        cases named
        refine .inr ⟨rfl, p, rfl, ?_⟩
        simp only [read, readParts_null taken]
        exact checked_plain rfl
      · have other : isLetter c = false := by
          cases one : isLetter c with
          | false => rfl
          | true => exact absurd rfl (noLetter (.one one))
        simp only [readLetter, null, if_false] at named
        cases named
        exact .inl ⟨c, rfl, other⟩
  | _ :: _ :: _ => cases named

end

/-! ## Faults of a spec -/

/-- Whether a fault is one of the spec; the one fault that is not belongs to values that take no
    spec at all. -/
def OfSpec : SpecFault → Prop
  | .unsupported _ => False
  | _ => True

variable {e : SpecFault}

theorem readCount_error (h : readCount t = .error e) : OfSpec e := by
  unfold readCount at h
  cases cut : spanDigits t with
  | mk ds r =>
      simp only [cut] at h
      split at h
      · cases h
      · split at h
        · cases h
        · cases h
          trivial

theorem readGrouping_error (h : readGrouping t = .error e) : OfSpec e := by
  simp only [readGrouping] at h
  split at h
  · cases h
    trivial
  · split at h
    · cases h
      trivial
    · cases h

theorem readPrecision_error (h : readPrecision t = .error e) : OfSpec e := by
  unfold readPrecision at h
  split at h
  · rename_i t
    cases count : readCount t with
    | error fault =>
        rw [count] at h
        cases h
        exact readCount_error count
    | ok read =>
        obtain ⟨n, r⟩ := read
        rw [count] at h
        cases n with
        | none =>
            cases h
            trivial
        | some n => cases h
  · cases h

theorem readParts_error {align} (h : readParts align t = .error e) : OfSpec e := by
  simp only [readParts, bind, Except.bind] at h
  split at h
  · rename_i width
    cases h
    exact readCount_error width
  · split at h
    · rename_i grouping
      cases h
      exact readGrouping_error grouping
    · split at h
      · rename_i precision
        cases h
        exact readPrecision_error precision
      · cases h

theorem readLetter_error {typeName letter spec}
    (h : readLetter typeName letter spec t = .error e) : OfSpec e := by
  match t with
  | [] | [_] => cases h
  | _ :: _ :: _ =>
      cases h
      trivial

/-- Reading a spec fails for a fault of the spec alone. -/
theorem read_error {typeName letter align} (h : read typeName letter align t = .error e) :
    OfSpec e := by
  simp only [read, bind, Except.bind] at h
  split at h
  · rename_i parts
    cases h
    exact readParts_error parts
  · split at h
    · rename_i named
      cases h
      exact readLetter_error named
    · simp only [checked] at h
      split at h
      · split at h
        · cases h
        · cases h
          trivial
      · cases h

end Stencil.FormatSpec

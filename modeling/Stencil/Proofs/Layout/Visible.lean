import Stencil.Layout.Profile
import Stencil.Proofs.Layout.Respaced

/-! # What layouts keep

A layout of bracketed text may move unquoted blanks and nothing else. The
characters that can be seen stay in order, each quoted where it was quoted
before, and every quoted run stays in one piece. No text is excluded: brackets
may be unbalanced, quotes may stay open, and the depth need not be that of the
text.
-/

namespace Stencil.Layout

/-- The scanned characters without the unquoted blanks. -/
def visible (cs : List (Char × Bool)) : List (Char × Bool) :=
  cs.filter fun x => x.2 || !isBlank x.1

def quotedRuns (cs : List (Char × Bool)) : List Text := ((runs cs).filter (·.2)).map (·.1)

def startsQuoted (cs : List (Char × Bool)) : Bool := (cs.head?.map (·.2)).getD false

theorem spacer_blank {c} (h : isSpacer c) : isBlank c := by
  rcases isSpacer_cases h with rfl | rfl <;> rfl

theorem blank_not_bracket {c} (h : isBlank c) : c ≠ '[' ∧ c ≠ ']' := by
  constructor <;> rintro rfl <;> cases h

theorem visible_tightenFrom (p : Place) (seam : Bool) (t : Text) :
    visible (scanFrom p (tightenFrom p seam t)) = visible (scanFrom p t) := by
  induction t generalizing p seam with
  | nil => rfl
  | cons c t ih =>
      simp only [tightenFrom]
      split
      · rename_i hc
        obtain ⟨rfl, hc⟩ := hc
        have unquoted := spacer_not_quote hc
        have shown : visible (scanFrom .outside (c :: t)) = visible (scanFrom .outside t) := by
          simp [visible, scanFrom, Place.quotes, unquoted, spacer_blank hc, after_outside unquoted]
        rw [shown]
        split
        · exact ih _ _
        · rw [← ih .outside seam]
          simp [visible, scanFrom, Place.quotes, unquoted, spacer_blank hc, after_outside unquoted]
      · simp only [scanFrom, visible, List.filter_cons] at ih ⊢
        rw [ih]

theorem Respaced.visible_eq {p t u} (h : Respaced p t u) :
    visible (scanFrom p t) = visible (scanFrom p u) := by
  rw [← visible_tightenFrom p false t, h false, visible_tightenFrom]

/-- Brackets are never blank, so blanks do not count for the profile. -/
theorem profileFrom_visible (level : Int) (deepest : Nat) (sound : Bool)
    (cs : List (Char × Bool)) :
    profileFrom level deepest sound (visible cs) = profileFrom level deepest sound cs := by
  induction cs generalizing level deepest sound with
  | nil => rfl
  | cons x cs ih =>
      obtain ⟨c, q⟩ := x
      cases h : q || !isBlank c with
      | true =>
          have kept : visible ((c, q) :: cs) = (c, q) :: visible cs := by simp [visible, h]
          rw [kept]
          simp only [profileFrom, ih]
      | false =>
          have gone : visible ((c, q) :: cs) = visible cs := by simp [visible, h]
          obtain ⟨rfl, blank⟩ := Bool.or_eq_false_iff.mp h
          obtain ⟨opening, closing⟩ := blank_not_bracket (by simpa using blank)
          rw [gone, ih]
          simp only [profileFrom, beq_eq_false_iff_ne.mpr opening, beq_eq_false_iff_ne.mpr closing,
            Bool.false_eq_true, if_false]

theorem Respaced.profile_eq {t u} (h : Respaced .outside t u) : profile t = profile u := by
  unfold profile scan
  rw [← profileFrom_visible, h.visible_eq, profileFrom_visible]

/-! ## Quoted runs -/

theorem runs_startsQuoted (cs : List (Char × Bool)) :
    ((runs cs).head?.map (·.2)).getD false = startsQuoted cs := by
  cases cs with
  | nil => rfl
  | cons x cs =>
      obtain ⟨c, q⟩ := x
      simp only [runs, startsQuoted]
      split
      · rfl
      · split <;> rfl

theorem quotedRuns_unquoted (c : Char) (cs : List (Char × Bool)) :
    quotedRuns ((c, false) :: cs) = quotedRuns cs := by
  simp only [quotedRuns, runs]
  split
  · rename_i none
    simp [none]
  · rename_i t r more some
    cases r <;> simp [some]

/-- A quoted character in front joins the first run when that one starts right behind it. -/
theorem quotedRuns_quoted (c : Char) (cs : List (Char × Bool)) :
    quotedRuns ((c, true) :: cs) =
      if startsQuoted cs then (quotedRuns cs).modifyHead (c :: ·) else [c] :: quotedRuns cs := by
  rw [← runs_startsQuoted]
  simp only [quotedRuns, runs]
  split
  · rename_i none
    simp [none]
  · rename_i t r more some
    cases r <;> simp [some]

theorem seam_starts_unquoted {seam : Bool} {t : Text} (h : meetsSeam t) :
    startsQuoted (scanFrom .outside (tightenFrom .outside seam t)) = false := by
  induction t with
  | nil => simp [meetsSeam] at h
  | cons c t ih =>
      cases hc : isSpacer c with
      | true =>
          simp only [meetsSeam, hc, if_true] at h
          simpa [tightenFrom, hc, h] using ih h
      | false =>
          have hs : isSeam c := by simpa [meetsSeam, hc] using h
          simp [tightenFrom, hc, startsQuoted, scanFrom, Place.quotes, seam_not_quote hs]

theorem startsQuoted_tightenFrom (p : Place) (t : Text) :
    startsQuoted (scanFrom p (tightenFrom p false t)) = startsQuoted (scanFrom p t) := by
  cases t with
  | nil => rfl
  | cons c t =>
      simp only [tightenFrom, Bool.false_or]
      split
      · rename_i hc
        obtain ⟨rfl, hc⟩ := hc
        split
        · rename_i met
          rw [seam_starts_unquoted met]
          simp [startsQuoted, scanFrom, Place.quotes, spacer_not_quote hc]
        · rfl
      · rfl

theorem quotedRuns_tightenFrom (p : Place) (seam : Bool) (t : Text) :
    quotedRuns (scanFrom p (tightenFrom p seam t)) = quotedRuns (scanFrom p t) := by
  induction t generalizing p seam with
  | nil => rfl
  | cons c t ih =>
      simp only [tightenFrom]
      split
      · rename_i hc
        obtain ⟨rfl, hc⟩ := hc
        have unquoted := spacer_not_quote hc
        simp only [scanFrom, Place.quotes, unquoted, quotedRuns_unquoted, after_outside unquoted]
        split
        · exact ih _ _
        · simp only [scanFrom, Place.quotes, unquoted, quotedRuns_unquoted, after_outside unquoted]
          exact ih _ _
      · simp only [scanFrom]
        cases hq : p.quotes c with
        | false => rw [quotedRuns_unquoted, quotedRuns_unquoted, ih]
        | true =>
            -- a seam outside of quotes is not quoted, so nothing is dropped behind this character
            have behind : (decide (p = .outside) && isSeam c) = false := by
              by_contra h
              simp only [Bool.not_eq_false, Bool.and_eq_true, decide_eq_true_eq] at h
              obtain ⟨rfl, hc⟩ := h
              simp [Place.quotes, seam_not_quote hc] at hq
            rw [behind, quotedRuns_quoted, quotedRuns_quoted, startsQuoted_tightenFrom, ih]

theorem Respaced.quotedRuns_eq {p t u} (h : Respaced p t u) :
    quotedRuns (scanFrom p t) = quotedRuns (scanFrom p u) := by
  rw [← quotedRuns_tightenFrom p false t, h false, quotedRuns_tightenFrom]

/-- What every layout of a text keeps of it. -/
structure Keeps (t u : Text) : Prop where
  /-- The visible characters in order, each quoted as before. -/
  visible : visible (scan u) = visible (scan t)
  /-- The quoted runs, each in one piece. -/
  quoted : quotedRuns (scan u) = quotedRuns (scan t)
  depth : nestingDepth u = nestingDepth t
  balanced : (profile u).balanced = (profile t).balanced

theorem Respaced.keeps {t u} (h : Respaced .outside u t) : Keeps t u where
  visible := h.visible_eq
  quoted := h.quotedRuns_eq
  depth := congrArg Profile.depth h.profile_eq
  balanced := congrArg Profile.balanced h.profile_eq

/-- Whatever the text, the depth and the padding, laying out moves unquoted blanks only. -/
theorem layouts_keep_visible (t : Text) (depth : Option Int) (indent : Int) :
    Keeps t (formatArray t depth).1 ∧ Keeps t (formatNested t indent) :=
  ⟨(layArray_respaced t _).keeps, (formatNested_respaced t indent).keeps⟩

/-- Brackets, commas and spaces in quotes are left alone although the tables would change them. -/
example : (formatArray "[['], [', 1], [2]]" none).1 =
    ("[\n    ['], [', 1],\n    [2]\n]" : Text) := by decide

end Stencil.Layout

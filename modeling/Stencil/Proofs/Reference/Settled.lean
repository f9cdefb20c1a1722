import Stencil.Proofs.Layout.Visible
import Stencil.Proofs.Reference.Grammar
import Stencil.Proofs.Template.Placeholder

/-! # Parentheses of references

In the text of a reference every quote is closed and, outside of quotes, every
parenthesis: what stands in the brackets of a step is matched text, and between
the brackets there are none. Nothing is said of what stands inside of quotes.
-/

namespace Stencil

open Layout Template

/-! ## Levels of concatenations -/

namespace Template

theorem level_append (t u : Text) : level (t ++ u) = level t + level u := by
  simp only [level, List.count_append]
  omega

theorem closes_append {d : Nat} {t u : Text} :
    Closes d (t ++ u) ↔
      (∀ p, p <+: t → 0 ≤ d + level p) ∧ ∃ e : Nat, (e : Int) = d + level t ∧ Closes e u := by
  constructor
  · intro h
    have above : ∀ p, p <+: t → 0 ≤ d + level p := fun p hp =>
      h.never_negative p (hp.trans (List.prefix_append t u))
    have start := above t List.prefix_rfl
    refine ⟨above, (d + level t).toNat, by omega, fun q hq => ?_, ?_⟩
    · have := h.never_negative (t ++ q) ((List.prefix_append_right_inj t).mpr hq)
      rw [level_append] at this
      omega
    · have := h.closed
      rw [level_append] at this
      omega
  · rintro ⟨above, e, he, h⟩
    refine ⟨fun p hp => ?_, ?_⟩
    · rcases List.prefix_or_prefix_of_prefix hp (List.prefix_append t u) with hp' | ⟨q, rfl⟩
      · exact above p hp'
      · have := h.never_negative q ((List.prefix_append_right_inj t).mp hp)
        rw [level_append]
        omega
    · have := h.closed
      rw [level_append]
      omega

theorem Closes.behind {d : Nat} {t u : Text} (ht : Balanced t) (hu : Closes d u) :
    Closes d (t ++ u) := by
  refine closes_append.mpr ⟨fun p hp => ?_, d, ?_, hu⟩
  · have := ht.never_negative p hp
    omega
  · rw [ht.closed]
    omega

theorem Balanced.append {t u : Text} (ht : Balanced t) (hu : Balanced u) : Balanced (t ++ u) :=
  closes_zero.mp (.behind ht (closes_zero.mpr hu))

theorem Balanced.of_none {t : Text} (h : ∀ c ∈ t, c ≠ '(' ∧ c ≠ ')') : Balanced t := by
  have flat : ∀ p, p <+: t → level p = 0 := by
    intro p hp
    have opens : '(' ∉ p := fun hc => (h _ (hp.subset hc)).1 rfl
    have closes : ')' ∉ p := fun hc => (h _ (hp.subset hc)).2 rfl
    simp [level, List.count_eq_zero.mpr opens, List.count_eq_zero.mpr closes]
  exact ⟨fun p hp => Int.le_of_eq (flat p hp).symm, flat t List.prefix_rfl⟩

theorem Balanced.enclosed {t : Text} (h : Balanced t) : Balanced ('(' :: (t ++ [')'])) := by
  have none : Balanced [] := .of_none (by simp)
  have last : Closes 1 [')'] := closes_cons.mpr ⟨0, rfl, closes_zero.mpr none⟩
  exact closes_zero.mp (closes_cons.mpr ⟨1, rfl, .behind h last⟩)

end Template

/-! ## What stands outside of quotes -/

/-- The characters of a text from a place on that do not count as quoted. -/
def bareFrom (p : Place) (t : Text) : Text := ((scanFrom p t).filter (!·.2)).map (·.1)

theorem bareFrom_cons (p : Place) (c : Char) (t : Text) :
    bareFrom p (c :: t) =
      if p.quotes c then bareFrom (p.after c) t else c :: bareFrom (p.after c) t := by
  cases h : p.quotes c with
  | true => simp [bareFrom, scanFrom, h]
  | false => simp [bareFrom, scanFrom, h]

theorem bareFrom_append (p : Place) (t u : Text) :
    bareFrom p (t ++ u) = bareFrom p t ++ bareFrom (t.foldl Place.after p) u := by
  simp [bareFrom, scanFrom_append]

theorem unclosing_passed {q : Char} {t : Text} (mark : isQuote q)
    (h : Reference.Unclosing q t) :
    (t ++ [q]).foldl Place.after (.inside q false) = .outside ∧
      bareFrom (.inside q false) (t ++ [q]) = [] := by
  induction h with
  | nil =>
      have backslash : q ≠ '\\' := by
        rintro rfl
        cases mark
      simp [Place.after, backslash, Place.quotes, bareFrom, scanFrom]
  | plain backslash other _ ih =>
      simpa [Place.after, backslash, other, bareFrom_cons, Place.quotes] using ih
  | escape _ ih => simpa [Place.after, bareFrom_cons, Place.quotes] using ih

/-- Text that ends outside of quotes and whose parentheses outside of quotes are balanced. -/
structure Settled (t : Text) : Prop where
  place : t.foldl Place.after .outside = .outside
  balanced : Balanced (bareFrom .outside t)

namespace Settled

theorem append {t u} (ht : Settled t) (hu : Settled u) : Settled (t ++ u) where
  place := by rw [List.foldl_append, ht.place, hu.place]
  balanced := by
    rw [bareFrom_append, ht.place]
    exact ht.balanced.append hu.balanced

theorem chars {t : Text} (h : ∀ c ∈ t, isQuote c = false ∧ c ∉ ['(', ')', '[', ']']) :
    Settled t where
  place := foldl_after_unquoted fun c hc => (h c hc).1
  balanced := by
    refine .of_none fun c hc => ?_
    have inside : c ∈ t := by
      obtain ⟨x, hx, rfl⟩ := List.mem_map.mp hc
      have scanned := List.mem_map_of_mem (f := (·.1)) (List.mem_of_mem_filter hx)
      rwa [scanFrom_map_fst] at scanned
    have bracket := (h c inside).2
    simp only [List.mem_cons, List.not_mem_nil, or_false, not_or] at bracket
    exact ⟨bracket.1, bracket.2.1⟩

theorem quoted {q : Char} {body : Text} (mark : isQuote q) (h : Reference.Unclosing q body) :
    Settled (q :: (body ++ [q])) := by
  have opened : Place.outside.after q = .inside q false := by simp [Place.after, mark]
  have counts : Place.outside.quotes q = true := mark
  obtain ⟨place, bare⟩ := unclosing_passed mark h
  constructor
  · rw [List.foldl_cons, opened, place]
  · rw [bareFrom_cons, counts, if_pos rfl, opened, bare]
    exact .of_none (by simp)

theorem bracket {o c : Char} {t : Text} (opens : Reference.closer? o = some c) (h : Settled t) :
    Settled (o :: (t ++ [c])) := by
  obtain ⟨unquoted, unquoted', balanced⟩ : isQuote o = false ∧ isQuote c = false ∧
      Balanced (o :: (bareFrom .outside t ++ [c])) := by
    rcases Reference.closer?_cases opens with ⟨rfl, rfl⟩ | ⟨rfl, rfl⟩
    · refine ⟨rfl, rfl, ?_⟩
      have first : Balanced ['['] := .of_none (by simp)
      exact first.append (h.balanced.append (.of_none (by simp)))
    · exact ⟨rfl, rfl, h.balanced.enclosed⟩
  constructor
  · rw [List.foldl_cons, after_outside unquoted, List.foldl_append, h.place]
    exact after_outside unquoted'
  · have last : bareFrom .outside [c] = [c] := by
      rw [bareFrom_cons, Place.quotes, unquoted']
      rfl
    rw [bareFrom_cons, Place.quotes, unquoted, after_outside unquoted, bareFrom_append, h.place,
      last]
    exact balanced

end Settled

/-! ## Classes without quotes and brackets -/

/-- A character of a class that has neither quotes nor brackets in it. -/
theorem ordinary_of {p : Char → Bool} (marks : ∀ m ∈ ['\'', '"', '(', ')', '[', ']'], p m = false)
    {c : Char} (h : p c) : isQuote c = false ∧ c ∉ ['(', ')', '[', ']'] := by
  have other : ∀ m ∈ ['\'', '"', '(', ')', '[', ']'], c ≠ m := by
    rintro m hm rfl
    rw [marks c hm] at h
    cases h
  simp only [List.forall_mem_cons] at other
  obtain ⟨single, double, opening, closing, left, right, -⟩ := other
  simp [isQuote, single, double, opening, closing, left, right]

theorem blank_ordinary {c : Char} (h : isBlank c) :
    isQuote c = false ∧ c ∉ ['(', ')', '[', ']'] :=
  ordinary_of (p := isBlank) (List.all_iff_forall_prop.mp (by decide)) h

theorem word_ordinary {c : Char} (h : isWord c) :
    isQuote c = false ∧ c ∉ ['(', ')', '[', ']'] :=
  ordinary_of (p := isWord) (List.all_iff_forall_prop.mp (by decide)) h

theorem decimal_ordinary {c : Char} (h : isDecimal c) :
    isQuote c = false ∧ c ∉ ['(', ')', '[', ']'] :=
  ordinary_of (p := isDecimal) (List.all_iff_forall_prop.mp (by decide +kernel)) h

/-! ## References -/

theorem settled_blanks {g : Text} (h : ∀ c ∈ g, isBlank c) : Settled g :=
  .chars fun c hc => blank_ordinary (h c hc)

theorem Reference.Matched.settled {t : Text} (h : Reference.Matched t) : Settled t := by
  induction h with
  | nil => exact .chars (by simp)
  | @plain c t quote bracket _ ih =>
      have first : Settled [c] := .chars (List.forall_mem_singleton.mpr ⟨quote, bracket⟩)
      exact first.append ih
  | quoted mark body _ ih => simpa using (Settled.quoted mark body).append ih
  | bracket opens _ _ inner ih => simpa using (Settled.bracket opens inner).append ih

theorem Head.Token.settled {head : Head} {t rest : Text} (h : head.Token t rest) : Settled t := by
  cases h with
  | index _ digits _ => exact .chars fun c hc => decimal_ordinary (digits c hc)
  | name named _ => exact .chars fun c hc => word_ordinary (named.word c hc)

theorem Step.Piece.settled {step : Step} {t rest : Text} (h : step.Piece t rest) : Settled t := by
  cases h with
  | point blanks named _ =>
      have point : Settled ['.'] := .chars (List.all_iff_forall_prop.mp (by decide))
      have name := Settled.chars fun c hc => word_ordinary (named.word c hc)
      exact point.append ((settled_blanks blanks).append name)
  | bracket opens matched _ => exact .bracket opens matched.settled

theorem Step.Pieces.settled {steps : List Step} {pieces : List (Text × Text)}
    (h : Step.Pieces steps pieces) : Settled (joined pieces) := by
  induction h with
  | nil => exact .chars (by simp [joined])
  | cons blanks piece _ ih =>
      rw [joined_cons]
      exact (settled_blanks blanks).append (piece.settled.append ih)

/-- In a text that is read as a reference quotes and parentheses are closed. -/
theorem Reference.read_settled {t : Text} {r : Reference} (h : Reference.read t = .ok r) :
    Settled t := by
  obtain ⟨g, g', split, before, behind⟩ := Text.trim_split t
  obtain ⟨-, d, whole, yields⟩ := exists_division h
  rw [split, ← whole, Division.text]
  exact ((settled_blanks before).append (yields.head.settled.append yields.steps.settled)).append
    (settled_blanks behind)

end Stencil

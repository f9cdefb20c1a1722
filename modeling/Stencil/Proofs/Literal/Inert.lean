import Stencil.Proofs.Format.Plain
import Stencil.Proofs.Literal.Lexeme
import Stencil.Proofs.Reference.Printed

/-! # Text without seams

Scalars are shown without brackets and commas outside of quotes, and what is
shown first can be seen. So whatever goes over bracketed text and looks for its
seams passes over a scalar as a whole.
-/

namespace Stencil

open Layout Literal

/-! ## Figures -/

/-- A character that can be seen and is neither a quote nor a seam. -/
structure Figure (c : Char) : Prop where
  quote : isQuote c = false
  seam : isSeam c = false
  visible : isBlank c = false

theorem figure_digit {c : Char} (h : c.isDigit) : Figure c := by
  have plain := alphanum (digit_alphanum h)
  exact ⟨plain.quote, plain.seam, digit_visible h⟩

theorem figure_word {w : Text}
    (h : w.all fun c => !isQuote c && !isSeam c && !isBlank c) : ∀ c ∈ w, Figure c := by
  intro c hc
  have all := List.all_eq_true.mp h c hc
  simp only [Bool.and_eq_true, Bool.not_eq_true'] at all
  exact ⟨all.1.1, all.1.2, all.2⟩

def Figures (t : Text) : Prop := ∀ c ∈ t, Figure c

namespace Figures

variable {t u : Text}

theorem append (ht : Figures t) (hu : Figures u) : Figures (t ++ u) := by
  intro c hc
  obtain h | h := List.mem_append.mp hc
  · exact ht c h
  · exact hu c h

theorem zeros (n : Nat) : Figures (List.replicate n '0') := by
  intro c hc
  obtain ⟨-, rfl⟩ := List.mem_replicate.mp hc
  exact figure_digit rfl

theorem natural (n : Nat) : Figures (natText n) := fun c hc => figure_digit (natText_isDigit c hc)

theorem padZeros (ht : Figures t) (width : Int) : Figures (padZeros width t) :=
  ht.append (zeros _)

theorem positional {p : Places} (h : ∀ c ∈ p.digits, c.isDigit) (last : Int) (keepPoint : Bool) :
    Figures (p.positionalText last keepPoint) := by
  have digits : Figures p.digits := fun c hc => figure_digit (h c hc)
  have whole : Figures (if p.point ≤ 0 then ['0']
      else Stencil.padZeros p.point (p.digits.take p.point.toNat)) := by
    split
    · exact figure_word rfl
    · apply padZeros
      exact fun c hc => digits c (List.mem_of_mem_take hc)
  have fraction : Figures (Stencil.padZeros (last - p.point)
      (List.replicate (-p.point).toNat '0' ++ p.digits.drop p.point.toNat)) := by
    apply padZeros
    exact (zeros _).append fun c hc => digits c (List.mem_of_mem_drop hc)
  apply whole.append
  split
  · cases keepPoint with
    | false => exact figure_word rfl
    | true => exact figure_word rfl
  · exact append (figure_word rfl : Figures ['.']) fraction

theorem exponent (upper : Bool) (e : Int) : Figures (exponentText upper e) := by
  have letter : Figures [if upper then 'E' else 'e'] := by cases upper <;> exact figure_word rfl
  have sign : Figures [if e < 0 then '-' else '+'] := by split <;> exact figure_word rfl
  exact letter.append (sign.append ((zeros _).append (natural _)))

theorem digitsText (style : FloatStyle) {p : Places} (h : ∀ c ∈ p.digits, c.isDigit) :
    Figures (style.digitsText p) := by
  unfold FloatStyle.digitsText
  simp only
  split
  · exact (positional (p := ⟨p.digits, 1⟩) h _ _).append (exponent _ _)
  · exact positional h _ _

theorem parts (style : FloatStyle) (x : Binary64) : Figures (style.parts x).2 := by
  cases x with
  | nan => simp only [FloatStyle.parts]; split <;> exact figure_word rfl
  | infinity s => simp only [FloatStyle.parts]; split <;> exact figure_word rfl
  | finite s m e => exact digitsText style (style.places_digits m e)

theorem floatText (x : Binary64) : Figures (floatText x) := by
  unfold Stencil.floatText
  simp only
  split
  · exact append (figure_word rfl : Figures ['-']) (parts _ x)
  · exact parts _ x

theorem bareFloatText (x : Binary64) : Figures (bareFloatText x) := by
  unfold Stencil.bareFloatText
  simp only
  split
  · exact append (figure_word rfl : Figures ['-']) (parts _ x)
  · exact parts _ x

theorem complexText (re im : Binary64) : Figures (complexText re im) := by
  unfold Stencil.complexText
  simp only
  split
  · exact (bareFloatText im).append (figure_word rfl)
  · have signed : Figures (if (Stencil.bareFloatText im).head? == some '-'
        then Stencil.bareFloatText im else '+' :: Stencil.bareFloatText im) := by
      split
      · exact bareFloatText im
      · exact append (figure_word rfl : Figures ['+']) (bareFloatText im)
    have opening : Figures ['('] := figure_word rfl
    have closing : Figures ['j', ')'] := figure_word rfl
    exact (opening.append ((bareFloatText re).append signed)).append closing

end Figures

theorem Places.positionalText_ne_nil (p : Places) (last : Int) (keepPoint : Bool) :
    p.positionalText last keepPoint ≠ [] := by
  unfold positionalText
  simp only
  split
  · simp
  · rename_i positive
    have long : 0 < (padZeros p.point (p.digits.take p.point.toNat)).length := by
      rw [padZeros, List.length_append, List.length_replicate]
      omega
    exact List.append_ne_nil_of_left_ne_nil (List.length_pos_iff.mp long) _

theorem FloatStyle.parts_ne_nil (style : FloatStyle) (x : Binary64) : (style.parts x).2 ≠ [] := by
  cases x with
  | nan => simp only [parts]; split <;> exact List.cons_ne_nil _ _
  | infinity s => simp only [parts]; split <;> exact List.cons_ne_nil _ _
  | finite s m e =>
      simp only [parts, digitsText]
      split
      · exact List.append_ne_nil_of_left_ne_nil (Places.positionalText_ne_nil _ _ _) _
      · exact Places.positionalText_ne_nil _ _ _

theorem floatText_ne_nil (x : Binary64) : floatText x ≠ [] := by
  unfold floatText
  simp only
  split
  · exact List.cons_ne_nil _ _
  · exact FloatStyle.parts_ne_nil _ x

theorem complexText_ne_nil (re im : Binary64) : complexText re im ≠ [] := by
  unfold complexText
  simp only
  split
  · exact List.append_ne_nil_of_right_ne_nil _ (List.cons_ne_nil _ _)
  · simp

/-! ## Inert text -/

/-- Text without seams outside of quotes, which it ends. -/
inductive Inert : Text → Prop where
  | nil : Inert []
  | plain {c t} : isQuote c = false → isSeam c = false → Inert t → Inert (c :: t)
  | quoted {q body t} : isQuote q → Inner q body → Inert t → Inert (q :: (body ++ q :: t))

theorem Figures.inert {t : Text} (h : Figures t) : Inert t := by
  induction t with
  | nil => exact .nil
  | cons c t ih =>
      obtain ⟨first, rest⟩ := List.forall_mem_cons.mp h
      exact .plain first.quote first.seam (ih rest)

theorem not_seam {c : Char} (h : isSeam c = false) : c ≠ '[' ∧ c ≠ ']' ∧ c ≠ ',' := by
  simp only [isSeam, Bool.or_eq_false_iff, beq_eq_false_iff_ne] at h
  exact ⟨h.1.1, h.1.2, h.2⟩

theorem quote_not_backslash {q : Char} (h : isQuote q) : q ≠ '\\' := by
  rintro rfl
  cases h

/-- A scan counts all of a quoted run as quoted and goes on behind it. -/
theorem scanFrom_quoted {q : Char} {body : Text} (mark : isQuote q) (h : Inner q body)
    (rest : Text) : scanFrom .outside (q :: (body ++ q :: rest)) =
      (q :: (body ++ [q])).map (·, true) ++ scanFrom .outside rest := by
  have inside : scanFrom (.inside q false) (body ++ q :: rest) =
      (body ++ [q]).map (·, true) ++ scanFrom .outside rest := by
    have other := quote_not_backslash mark
    induction h with
    | nil => simp [scanFrom, Place.quotes, Place.after, other]
    | plain plain open_ _ _ ih => simp [scanFrom, Place.quotes, Place.after, plain, open_, ih]
    | escape _ ih => simp [scanFrom, Place.quotes, Place.after, ih]
  have opening : Place.outside.after q = .inside q false := if_pos mark
  rw [scanFrom, opening, inside]
  simp [Place.quotes, mark]

/-- Inert text that starts with a character that can be seen. -/
structure Atom (t : Text) : Prop where
  inert : Inert t
  first : ∃ c u, t = c :: u ∧ isSeam c = false ∧ isBlank c = false

theorem Figures.atom {t : Text} (h : Figures t) (some : t ≠ []) : Atom t where
  inert := h.inert
  first := by
    obtain ⟨c, u, rfl⟩ := List.exists_cons_of_ne_nil some
    have figure := h c List.mem_cons_self
    exact ⟨c, u, rfl, figure.seam, figure.visible⟩

theorem Inert.body {wide : Bool} {q : Char} {body text : Text} (h : Body wide q body text) :
    Inert (q :: (body ++ [q])) := .quoted h.mark h.inner .nil

/-- Every scalar is shown as an atom. -/
theorem atom_scalar (s : Scalar) : Atom s.display := by
  cases s with
  | none => exact Figures.atom (figure_word rfl) (by decide)
  | bool b =>
      cases b with
      | false => exact Figures.atom (figure_word rfl) (by decide)
      | true => exact Figures.atom (figure_word rfl) (by decide)
  | int i =>
      cases i with
      | ofNat n => exact (Figures.natural n).atom (natText_ne_nil n)
      | negSucc n =>
          have figures : Figures ('-' :: natText (n + 1)) :=
            .append (figure_word rfl : Figures ['-']) (.natural (n + 1))
          exact figures.atom (List.cons_ne_nil _ _)
  | float x => exact (Figures.floatText x).atom (floatText_ne_nil x)
  | complex re im => exact (Figures.complexText re im).atom (complexText_ne_nil re im)
  | text t =>
      obtain ⟨q, body, e, between⟩ := quoted_body t
      have mark := between.quoteMark
      change Atom (quoted t)
      rw [e]
      exact ⟨.body between, q, _, rfl, mark.seam, quote_visible between.mark⟩
  | bytes bs =>
      obtain ⟨q, body, e, between⟩ := quotedBytes_body bs
      change Atom (quotedBytes bs)
      rw [e]
      exact ⟨.plain rfl rfl (.body between), 'b', _, rfl, rfl, rfl⟩
  | ellipsis => exact Figures.atom (figure_word rfl) (by decide)

end Stencil

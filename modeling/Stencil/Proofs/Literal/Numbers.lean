import Stencil.Literal.Token

/-! # Numbers that are written in a text

Whatever is read off the front of a text, what is left is a part of its end. So a
number among the tokens of a text is written in it: somewhere in the text begins
a numeral that is read as this number.
-/

namespace Stencil.Literal

open Numeral

variable {t rest : Text}

/-! ## What is left -/

/-- What is made of that which a reader took leaves the rest as it is. -/
theorem rest_of_map {α β : Type} {r : Option (α × Text)} {f : α × Text → β × Text} {y : β}
    (h : r.map f = some (y, rest)) (kept : ∀ p, (f p).2 = p.2) : ∃ x, r = some (x, rest) := by
  obtain ⟨⟨x, u⟩, taken, same⟩ := Option.map_eq_some_iff.mp h
  have left : rest = u := by simpa only [same] using kept (x, u)
  rw [left]
  exact ⟨x, taken⟩

theorem spanGrouped_suffix {digit : Char → Bool} {ds : Text}
    (h : spanGrouped digit t = some (ds, rest)) : rest <:+ t := by
  fun_induction spanGrouped digit t generalizing ds with
  | case1 => cases h
  | case2 => cases h
  | case3 c _ u ih =>
      obtain ⟨ds, more⟩ := rest_of_map h fun _ => rfl
      exact (ih more).trans ((List.suffix_cons '_' u).trans (List.suffix_cons c _))
  | case4 c _ d u _ _ ih =>
      obtain ⟨ds, more⟩ := rest_of_map h fun _ => rfl
      exact (ih more).trans (List.suffix_cons c _)
  | case5 c _ d u =>
      cases h
      exact List.suffix_cons c _
  | case6 c =>
      cases h
      exact List.suffix_cons c []

theorem readFraction_suffix {fraction : Option Text} (h : readFraction t = some (fraction, rest)) :
    rest <:+ t := by
  unfold readFraction at h
  split at h
  · rename_i c u
    split at h
    · obtain ⟨ds, more⟩ := rest_of_map h fun _ => rfl
      exact (spanGrouped_suffix more).trans (List.suffix_cons '.' _)
    · cases h
      exact List.suffix_cons '.' _
  · cases h
    exact List.suffix_cons '.' []
  · cases h
    exact List.suffix_rfl

theorem splitSign_suffix (t : Text) : (splitSign t).2 <:+ t := by
  unfold splitSign
  split
  · exact List.suffix_cons '-' _
  · exact List.suffix_cons '+' _
  · exact List.suffix_rfl

theorem readExponentPart_suffix {exponent : Option Int}
    (h : readExponentPart t = some (exponent, rest)) : rest <:+ t := by
  unfold readExponentPart at h
  split at h
  · rename_i c u
    split at h
    · have sign := splitSign_suffix u
      dsimp only at h
      split at h
      · split at h
        · obtain ⟨ds, more⟩ := rest_of_map h fun _ => rfl
          exact ((spanGrouped_suffix more).trans sign).trans (List.suffix_cons c u)
        · cases h
          exact List.suffix_rfl
      · cases h
        exact List.suffix_rfl
    · cases h
      exact List.suffix_rfl
  · cases h
    exact List.suffix_rfl

theorem readBased_suffix {base : Nat} {s : Scalar} (h : readBased base t = some (s, rest)) :
    rest <:+ t := by
  unfold readBased at h
  obtain ⟨ds, digits⟩ := rest_of_map h fun _ => rfl
  have left := spanGrouped_suffix digits
  split at left
  · exact left.trans (List.suffix_cons '_' _)
  · exact left

theorem readWhole_suffix {whole : Text} (h : readWhole t = some (whole, rest)) : rest <:+ t := by
  unfold readWhole at h
  split at h
  · cases h
    exact List.suffix_rfl
  · exact spanGrouped_suffix h

theorem readDecimal_suffix {s : Scalar} (h : readDecimal t = some (s, rest)) : rest <:+ t := by
  unfold readDecimal at h
  obtain ⟨⟨whole, t₁⟩, first, h⟩ := Option.bind_eq_some_iff.mp h
  obtain ⟨⟨fraction, t₂⟩, second, h⟩ := Option.bind_eq_some_iff.mp h
  obtain ⟨⟨exponent, t₃⟩, third, h⟩ := Option.bind_eq_some_iff.mp h
  have left : t₃ <:+ t :=
    (readExponentPart_suffix third).trans
      ((readFraction_suffix second).trans (readWhole_suffix first))
  dsimp only at h
  split at h
  · cases h
    exact (List.suffix_cons 'j' _).trans left
  · cases h
    exact (List.suffix_cons 'J' _).trans left
  · split at h
    · cases h
      exact left
    · split at h
      · cases h
      · cases h
        exact left

theorem readNumber_suffix {s : Scalar} (h : readNumber t = some (s, rest)) : rest <:+ t := by
  unfold readNumber at h
  split at h
  · rename_i c u
    split at h
    · exact (readBased_suffix h).trans ((List.suffix_cons c u).trans (List.suffix_cons '0' _))
    · exact readDecimal_suffix h
  · exact readDecimal_suffix h

theorem readNumeral_suffix {s : Scalar} (h : readNumeral t = some (s, rest)) : rest <:+ t := by
  unfold readNumeral at h
  obtain ⟨⟨value, behind⟩, number, h⟩ := Option.bind_eq_some_iff.mp h
  dsimp only at h
  split at h
  · cases h
  · cases h
    exact readNumber_suffix number

theorem closeQuote_suffix {quote : Char} {tripled : Bool} {body : Text}
    (h : closeQuote quote tripled t = some (body, rest)) : rest <:+ t := by
  fun_induction closeQuote quote tripled t generalizing body with
  | case1 => cases h
  | case2 c =>
      cases h
      exact List.suffix_cons c []
  | case3 => cases h
  | case4 c d t _ ih =>
      obtain ⟨body, more⟩ := rest_of_map h fun _ => rfl
      exact (ih more).trans ((List.suffix_cons d t).trans (List.suffix_cons c _))
  | case5 c d t =>
      cases h
      exact List.suffix_cons c _
  | case6 c d t =>
      cases h
      exact (List.drop_suffix 1 t).trans ((List.suffix_cons d t).trans (List.suffix_cons c _))
  | case7 => cases h
  | case8 c d t _ _ _ _ ih =>
      obtain ⟨body, more⟩ := rest_of_map h fun _ => rfl
      exact (ih more).trans (List.suffix_cons c _)

theorem readQuoted_suffix {letters : Text} {quote : Char} {token : Token}
    (h : readQuoted letters quote t = some (token, rest)) : rest <:+ t := by
  unfold readQuoted at h
  obtain ⟨⟨body, behind⟩, closed, h⟩ := Option.bind_eq_some_iff.mp h
  have left := closeQuote_suffix closed
  have begun : behind <:+ t := by
    split at left
    · exact left.trans (List.drop_suffix 2 t)
    · exact left
  dsimp only at h
  split at h
  · cases h
    exact begun
  · obtain ⟨kind, -, h⟩ := Option.bind_eq_some_iff.mp h
    obtain ⟨token, -, h⟩ := Option.bind_eq_some_iff.mp h
    cases h
    exact begun

theorem readName_suffix {letters : Text} {token : Token}
    (h : readName letters t = some (token, rest)) : rest <:+ t := by
  unfold readName at h
  split at h
  · split at h
    · exact (readQuoted_suffix h).trans (List.suffix_cons _ _)
    · cases h
      exact List.suffix_rfl
  · cases h
    exact List.suffix_rfl

theorem readToken_suffix {token : Token} (h : readToken t = some (token, rest)) : rest <:+ t := by
  unfold readToken at h
  split at h
  · cases h
  · rename_i c u
    have one : u <:+ c :: u := List.suffix_cons c u
    split at h
    · split at h
      · cases h
        exact (List.drop_suffix 1 u).trans one
      · cases h
        exact one
    · split at h
      · exact (readQuoted_suffix h).trans one
      · split at h
        · obtain ⟨s, number⟩ := rest_of_map h fun _ => rfl
          exact readNumeral_suffix number
        · split at h
          · cases h
            exact (List.drop_suffix 2 u).trans one
          · split at h
            · dsimp only at h
              split at h
              · exact (readName_suffix h).trans (List.dropWhile_suffix _)
              · cases h
            · obtain ⟨o, -, same⟩ := Option.map_eq_some_iff.mp h
              cases same
              exact List.drop_suffix _ _

/-! ## Numbers -/

theorem quotedToken_not_number {raw bytes : Bool} {body : Text} {s : Scalar} :
    quotedToken raw bytes body ≠ some (.number s) := by
  cases raw <;> cases bytes <;> simp [quotedToken, Option.bind_eq_some_iff]

theorem readQuoted_not_number {letters : Text} {quote : Char} {s : Scalar} :
    readQuoted letters quote t ≠ some (.number s, rest) := by
  intro h
  unfold readQuoted at h
  obtain ⟨⟨body, behind⟩, -, h⟩ := Option.bind_eq_some_iff.mp h
  dsimp only at h
  split at h
  · cases h
  · obtain ⟨kind, -, h⟩ := Option.bind_eq_some_iff.mp h
    obtain ⟨token, quoted, h⟩ := Option.bind_eq_some_iff.mp h
    cases h
    exact quotedToken_not_number quoted

/-- A token that is a number is read off the text as a numeral. -/
theorem readToken_number {s : Scalar} (h : readToken t = some (.number s, rest)) :
    readNumeral t = some (s, rest) := by
  unfold readToken at h
  split at h
  · cases h
  · split at h
    · split at h <;> cases h
    · split at h
      · exact absurd h readQuoted_not_number
      · split at h
        · obtain ⟨⟨s, behind⟩, number, same⟩ := Option.map_eq_some_iff.mp h
          cases same
          exact number
        · split at h
          · cases h
          · split at h
            · dsimp only at h
              split at h
              · unfold readName at h
                split at h
                · split at h
                  · exact absurd h readQuoted_not_number
                  · cases h
                · cases h
              · cases h
            · obtain ⟨o, -, same⟩ := Option.map_eq_some_iff.mp h
              cases same

/-- Somewhere in a text begins a numeral that is read as a number. -/
def HasNumber (t : Text) (s : Scalar) : Prop :=
  ∃ u rest, u <:+ t ∧ readNumeral u = some (s, rest)

theorem HasNumber.grow {u : Text} {s : Scalar} (h : HasNumber t s) (part : t <:+ u) :
    HasNumber u s := by
  obtain ⟨v, rest, inside, number⟩ := h
  exact ⟨v, rest, inside.trans part, number⟩

theorem tokensFrom_hasNumber {d : Nat} {started : Bool} {ts : List Token} {s : Scalar}
    (h : tokensFrom d started t = some ts) (known : .number s ∈ ts) : HasNumber t s := by
  fun_induction tokensFrom d started t generalizing ts with
  | case1 | case4 =>
      cases h
      cases known
  | case5 | case6 | case10 | case11 | case13 => cases h
  | case2 d started c u _ ih => exact (ih h known).grow (List.suffix_cons c u)
  | case3 d started c u _ _ _ ih => exact (ih h known).grow (List.suffix_cons c u)
  | case7 d started c u _ _ _ _ _ ih => exact (ih h known).grow (List.suffix_cons c u)
  | case8 d started c u _ _ _ ih =>
      exact (ih h known).grow ((List.dropWhile_suffix _).trans (List.suffix_cons c u))
  | case9 d started c _ _ _ _ v ih =>
      exact (ih h known).grow ((List.suffix_cons '\n' v).trans (List.suffix_cons c _))
  | case12 d started c u _ _ _ _ token rest read _ ih =>
      obtain ⟨us, behind, rfl⟩ := Option.map_eq_some_iff.mp h
      obtain here | there := List.mem_cons.mp known
      · subst here
        exact ⟨c :: u, rest, List.suffix_rfl, readToken_number read⟩
      · exact (ih behind there).grow (readToken_suffix read)

/-- A number among the tokens of a text is written in it, line ends being line feeds. -/
theorem tokens_hasNumber {ts : List Token} {s : Scalar} (h : tokens t = some ts)
    (known : .number s ∈ ts) : HasNumber (unifyLines t) s := by
  unfold tokens at h
  split at h
  · cases h
  · exact tokensFrom_hasNumber h known

end Stencil.Literal

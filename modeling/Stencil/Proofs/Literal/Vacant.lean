import Stencil.Proofs.Literal.Reading
import Stencil.Proofs.Literal.Spelling
import Stencil.Proofs.Text.Trim

/-! # Nothing but blanks in front of a comma

Parentheses that hold a comma behind blanks are no literal, whatever the blanks
are. Those that may stand between tokens are dropped, so that the comma comes
where an element is missing, and the others are no tokens.
-/

namespace Stencil.Literal

open Text

theorem blank_facts {c : Char} (h : isBlank c) : isMark c = false ∧ isQuote c = false ∧
    c.isDigit = false ∧ c ∉ ['.', '#', '\\'] ∧ (isNameChar c → 128 ≤ c.toNat) ∧
      ∀ o ∈ operators, o.head? ≠ some c :=
  of_blank (P := fun c => isMark c = false ∧ isQuote c = false ∧ c.isDigit = false ∧
    c ∉ ['.', '#', '\\'] ∧ (isNameChar c → 128 ≤ c.toNat) ∧
      ∀ o ∈ operators, o.head? ≠ some c) (by decide +kernel) h

theorem trimStart_unifyLines (t : Text) : trimStart (unifyLines t) = unifyLines (trimStart t) := by
  fun_induction unifyLines t with
  | case1 => rfl
  | case2 t ih => exact ih
  | case3 c t _ ih =>
      cases blank : isBlank c with
      | true =>
          have unified : isBlank (if c == '\r' then '\n' else c) := by
            split
            · rfl
            · exact blank
          rw [trimStart, List.dropWhile_cons_of_pos unified, trimStart,
            List.dropWhile_cons_of_pos blank]
          exact ih
      | false =>
          have other : c ≠ '\r' := by
            rintro rfl
            cases blank
          simp [trimStart, blank, other, unifyLines]

/-- No token starts with a blank. -/
theorem readToken_blank {c : Char} (h : isBlank c) (t : Text) : readToken (c :: t) = none := by
  obtain ⟨mark, quote, digit, other, named, operator⟩ := blank_facts h
  simp only [List.mem_cons, List.not_mem_nil, or_false, not_or] at other
  have point : (c == '.') = false := beq_eq_false_iff_ne.mpr other.1
  simp only [readToken, mark, quote, digit, point, Bool.false_and, Bool.or_false,
    Bool.false_eq_true, if_false]
  split
  · rename_i name
    have wide : decide (c.toNat < 128) = false := decide_eq_false (Nat.not_lt.mpr (named name))
    have unknown : (((c :: t).takeWhile isNameChar).all
        fun d => d.toNat < 128 || isWord d) = false := by
      rw [List.takeWhile_cons_of_pos name, List.all_cons, wide, blank_not_word h]
      rfl
    rw [unknown]
    rfl
  · have none : operators.find? (·.isPrefixOf (c :: t)) = none := by
      rw [List.find?_eq_none]
      intro o known starts
      cases o with
      | nil => simp [operators] at known
      | cons d o =>
          have same : d = c := by
            simp only [List.isPrefixOf, Bool.and_eq_true, beq_iff_eq] at starts
            exact starts.1
          exact operator (d :: o) known (by rw [same]; rfl)
    rw [readOperator, none]
    rfl

/-- The first token in front of a comma that has nothing but blanks before it. -/
theorem first_token {d started} {t u : Text} {ts : List Token}
    (comma : trimStart t = ',' :: u) (cut : tokensFrom (d + 1) started t = some ts) :
    ∃ us, ts = .mark ',' :: us := by
  induction t with
  | nil => cases comma
  | cons c t ih =>
      cases blank : isBlank c with
      | false =>
          rw [trimStart_self (by simpa using blank)] at comma
          cases comma
          have read : readToken (',' :: u) = some (.mark ',', u) := rfl
          rw [tokensFrom_token rfl read (Nat.le_refl _)] at cut
          obtain ⟨us, -, rfl⟩ := Option.map_eq_some_iff.mp cut
          exact ⟨us, rfl⟩
      | true =>
          have behind : trimStart t = ',' :: u := by
            simpa [trimStart, blank] using comma
          by_cases skipped : isSpacing c ∨ c = '\n' ∧ 0 < d + 1
          · rw [tokensFrom_spacing skipped] at cut
            exact ih behind cut
          · simp only [not_or, not_and, Nat.succ_pos, not_true, imp_false,
              Bool.not_eq_true] at skipped
            obtain ⟨-, -, -, other, -⟩ := blank_facts blank
            simp only [List.mem_cons, List.not_mem_nil, or_false, not_or] at other
            rw [tokensFrom.eq_def] at cut
            simp only [skipped, beq_eq_false_iff_ne.mpr skipped.2,
              beq_eq_false_iff_ne.mpr other.2.1, beq_eq_false_iff_ne.mpr other.2.2,
              readToken_blank blank, Bool.false_eq_true, if_false] at cut
            cases cut

theorem whole_comma (n : Nat) (us : List Token) :
    Parse.whole n (.mark '(' :: .mark ',' :: us) = none := by
  have parenthesis : Parse.descend n .expression (.mark '(' :: .mark ',' :: us) = none := by
    cases n with
    | zero => rfl
    | succ n =>
        cases n with
        | zero => rfl
        | succ n => rfl
  rw [Parse.whole, run_bind, parenthesis, Option.bind_none]

/-- Parentheses with nothing but blanks in front of a comma are no literal. -/
theorem read_vacant {g : Text} (blank : ∀ c ∈ g, isBlank c) (l : Literal) :
    Literal.read ('(' :: (g ++ [',', ')'])) ≠ .ok l := by
  intro h
  rw [Literal.read] at h
  split at h
  · rename_i e rest parsed
    obtain ⟨ts, cut, whole⟩ := Option.bind_eq_some_iff.mp parsed
    rw [tokens] at cut
    split at cut
    · cases cut
    · have lines : unifyLines ('(' :: (g ++ [',', ')'])) =
          '(' :: unifyLines (g ++ [',', ')']) := rfl
      have comma : trimStart (unifyLines (g ++ [',', ')'])) = [',', ')'] := by
        rw [trimStart_unifyLines, trimStart_blanks blank]
        rfl
      have read : ∀ t, readToken ('(' :: t) = some (.mark '(', t) := fun t => rfl
      rw [lines, tokensFrom_token rfl (read _) (Nat.le_refl _)] at cut
      obtain ⟨us, inner, rfl⟩ := Option.map_eq_some_iff.mp cut
      obtain ⟨vs, rfl⟩ := first_token comma inner
      rw [whole_comma] at whole
      cases whole
  · cases h

end Stencil.Literal

import Mathlib.Data.Bool.AllAny
import Mathlib.Data.List.Basic
import Stencil.Text.Blank
import Stencil.Text.Quoted
import Stencil.Text.Word

/-! # How character classes lie to each other

Blanks are few, so what holds of every blank is checked blank by blank: none is
part of a word, none is a digit, and the space alone is printable. Letters and
the underscore, which names start with, are no digits.
-/

namespace Stencil

def blankCodes : List Nat :=
  [9, 10, 11, 12, 13, 28, 29, 30, 31, 32, 0x85, 0xa0, 0x1680, 0x2000, 0x2001, 0x2002, 0x2003, 0x2004,
   0x2005, 0x2006, 0x2007, 0x2008, 0x2009, 0x200a, 0x2028, 0x2029, 0x202f, 0x205f, 0x3000]

theorem mem_blankCodes {c} (h : isBlank c) : c.toNat ∈ blankCodes := by
  simp only [isBlank, Bool.or_eq_true, Bool.and_eq_true, decide_eq_true_eq, beq_iff_eq] at h
  simp only [blankCodes, List.mem_cons, List.not_mem_nil, or_false]
  omega

/-- A property that every blank has when each of their codes has it. -/
theorem of_blank {P : Char → Prop} (codes : ∀ n ∈ blankCodes, P (Char.ofNat n)) {c}
    (h : isBlank c) : P c := by
  rw [← Char.ofNat_toNat c]
  exact codes _ (mem_blankCodes h)

theorem blank_not_word {c} (h : isBlank c) : isWord c = false :=
  of_blank (P := fun c => isWord c = false) (by decide +kernel) h

theorem blank_not_digit {c} (h : isBlank c) : digitValue? c = none :=
  of_blank (P := fun c => digitValue? c = none) (by decide +kernel) h

theorem blank_not_digitChar {c} (h : isBlank c) : c.isDigit = false :=
  of_blank (P := fun c => c.isDigit = false) (by decide +kernel) h

theorem printable_blank {c} (h : isBlank c) (p : isPrintable c) : c = ' ' :=
  of_blank (P := fun c => isPrintable c → c = ' ') (by decide +kernel) h p

theorem lineBreak_blank {c} (h : isLineBreak c) : isBlank c := by
  simp only [isLineBreak, isBlank, Bool.or_eq_true, Bool.and_eq_true, decide_eq_true_eq,
    beq_iff_eq] at h ⊢
  omega

theorem printable_not_lineBreak {c} (h : isPrintable c) : isLineBreak c = false := by
  cases e : isLineBreak c with
  | false => rfl
  | true =>
      have := printable_blank (lineBreak_blank e) h
      subst this
      contradiction

/-- A character of ASCII has a property when all the codes below 128 have it. -/
theorem of_ascii {P : Char → Prop} (codes : ∀ n < 128, P (Char.ofNat n)) {c : Char}
    (h : c.toNat < 128) : P c := by
  rw [← Char.ofNat_toNat c]
  exact codes _ h

theorem alphanum_ascii {c : Char} (h : c.isAlphanum) : c.toNat < 128 := by
  have kinds : (c.isUpper ∨ c.isLower) ∨ c.isDigit := by
    have : (c.isUpper || c.isLower || c.isDigit) = true := h
    simpa only [Bool.or_eq_true] using this
  have last : c.val ≤ 'z'.val := by
    rcases kinds with (upper | lower) | digit
    · exact Nat.le_trans (of_decide_eq_true upper).2 (by decide)
    · exact of_decide_eq_true ((Bool.and_eq_true _ _).mp lower).2
    · exact Nat.le_trans (of_decide_eq_true ((Bool.and_eq_true _ _).mp digit).2) (by decide)
  exact Nat.lt_of_le_of_lt last (by decide)

theorem nameStart_ascii {c} (h : isNameStart c) : c.toNat < 128 := by
  simp only [isNameStart, Bool.or_eq_true, beq_iff_eq] at h
  rcases h with h | rfl
  · exact alphanum_ascii (by simp [Char.isAlphanum, h])
  · decide

theorem nameStart_not_digit {c} (h : isNameStart c) : digitValue? c = none :=
  of_ascii (P := fun c => isNameStart c → digitValue? c = none) (by decide +kernel)
    (nameStart_ascii h) h

end Stencil

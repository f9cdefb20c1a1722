import Mathlib.Algebra.Group.Nat.Defs
import Mathlib.Data.List.Basic
import Stencil.Number.Numeral
import Stencil.Text.Quoted

/-! # Written digits have their value

The digits that a number is written with are those of its base, and reading them
back gives the number: for decimal text, for padded hexadecimal text, and for
decimal digits with other text behind them. Only zero is written with a leading
zero.
-/

namespace Stencil

theorem mem_toDigits {b n : Nat} {c : Char} (hb : 1 < b) (h : c ∈ Nat.toDigits b n) :
    ∃ d < b, c = d.digitChar := by
  induction n using Nat.base_induction b hb with
  | single m hm =>
      rw [Nat.toDigits_of_lt_base hm, List.mem_singleton] at h
      exact ⟨m, hm, h⟩
  | digit m k hk hm ih =>
      rw [← Nat.toDigits_append_toDigits hb hm hk, List.mem_append,
        Nat.toDigits_of_lt_base hk, List.mem_singleton] at h
      rcases h with h | h
      · exact ih h
      · exact ⟨k, hk, h⟩

theorem digitsValue_append (b : Nat) (ds : List Nat) (d : Nat) :
    digitsValue b (ds ++ [d]) = digitsValue b ds * b + d := by
  simp only [digitsValue, List.foldl_append, List.foldl_cons, List.foldl_nil]

theorem digitsValue_toDigits {b : Nat} (hb : 1 < b) {value : Char → Nat}
    (hv : ∀ d < b, value d.digitChar = d) (n : Nat) :
    digitsValue b ((Nat.toDigits b n).map value) = n := by
  induction n using Nat.base_induction b hb with
  | single m hm => simp [Nat.toDigits_of_lt_base hm, digitsValue, hv m hm]
  | digit m k hk hm ih =>
      rw [← Nat.toDigits_append_toDigits hb hm hk, Nat.toDigits_of_lt_base hk, List.map_append,
        List.map_singleton, digitsValue_append, ih, hv k hk, Nat.mul_comm]

theorem digitsValue_zeros (b k : Nat) (ds : List Nat) :
    digitsValue b (List.replicate k 0 ++ ds) = digitsValue b ds := by
  induction k with
  | zero => rfl
  | succ k ih => simpa [List.replicate_succ, digitsValue] using ih

/-! ## Padded hexadecimal text -/

theorem hexPadded_length {width n : Nat} (hw : 0 < width) (h : n < 16 ^ width) :
    (hexPadded width n).length = width := by
  have := (Nat.length_toDigits_le_iff (b := 16) (by decide) hw).mpr h
  simp only [hexPadded, List.length_append, List.length_replicate]
  omega

theorem mem_hexPadded {width n : Nat} {c : Char} (h : c ∈ hexPadded width n) :
    ∃ d < 16, c = d.digitChar := by
  simp only [hexPadded, List.mem_append, List.mem_replicate] at h
  rcases h with ⟨_, rfl⟩ | h
  · exact ⟨0, by decide, rfl⟩
  · exact mem_toDigits (by decide) h

theorem digitsValue_hexPadded (value : Char → Nat) (hv : ∀ d < 16, value d.digitChar = d)
    (width n : Nat) : digitsValue 16 ((hexPadded width n).map value) = n := by
  have zero : value '0' = 0 := hv 0 (by decide)
  rw [hexPadded, List.map_append, List.map_replicate, zero, digitsValue_zeros,
    digitsValue_toDigits (by decide) hv]

/-! ## Decimal text -/

theorem natText_ne_nil (n : Nat) : natText n ≠ [] := Nat.toDigits_ne_nil

theorem mem_natText {n : Nat} {c : Char} (h : c ∈ natText n) : ∃ d < 10, c = d.digitChar :=
  mem_toDigits (by decide) h

theorem natText_isDigit {n : Nat} : ∀ c ∈ natText n, c.isDigit :=
  fun _ h => Nat.isDigit_of_mem_toDigits (by decide) (by decide) h

theorem natText_head_zero {n : Nat} (h : (natText n).head? = some '0') : n = 0 := by
  unfold natText at h
  induction n using Nat.base_induction 10 (by decide) with
  | single m hm =>
      rw [Nat.toDigits_of_lt_base hm, List.head?_cons, Option.some.injEq] at h
      have all : ∀ m < 10, Nat.digitChar m = '0' → m = 0 := by decide
      exact all m hm h
  | digit m k hk hm ih =>
      rw [← Nat.toDigits_append_toDigits (by decide) hm hk,
        List.head?_append_of_ne_nil _ Nat.toDigits_ne_nil] at h
      exact absurd (ih h) (by omega)

theorem numeralValue_natText (n : Nat) : Numeral.numeralValue 10 (natText n) = n :=
  digitsValue_toDigits (by decide) (by decide) n

theorem digitValue?_digitChar : ∀ d < 10, digitValue? d.digitChar = some d := by decide

theorem natText_isDecimal (n : Nat) : ∀ c ∈ natText n, isDecimal c := by
  intro c hc
  obtain ⟨d, hd, rfl⟩ := mem_natText hc
  rw [isDecimal, digitValue?_digitChar d hd]
  rfl

theorem spanDigits_rest (t : Text) : (spanDigits t).2 = t.dropWhile isDecimal := by
  fun_induction spanDigits t with
  | case1 => rfl
  | case2 c t d h ds rest e ih => simpa [isDecimal, h, e] using ih
  | case3 c t h => simp [isDecimal, h]

/-- Decimal text read as a run of digits, when no digit of any script is behind it. -/
theorem spanDigits_natText {n : Nat} {rest : Text}
    (h : ∀ c ∈ rest.head?, digitValue? c = none) :
    ∃ ds, ds ≠ [] ∧ digitsValue 10 ds = n ∧ spanDigits (natText n ++ rest) = (ds, rest) := by
  have stop : spanDigits rest = ([], rest) := by
    cases rest with
    | nil => rfl
    | cons c rest => simp only [spanDigits, h c rfl]
  have go : ∀ t : Text, (∀ c ∈ t, ∃ d < 10, c = d.digitChar) →
      spanDigits (t ++ rest) = (t.map fun c => (digitValue? c).getD 0, rest) := by
    intro t ht
    induction t with
    | nil => exact stop
    | cons c t ih =>
        obtain ⟨d, hd, rfl⟩ := ht c (by simp)
        simp only [List.cons_append, spanDigits, digitValue?_digitChar d hd, List.map_cons,
          Option.getD_some, ih fun e he => ht e (by simp [he])]
  refine ⟨_, ?_, ?_, go (natText n) fun _ hc => mem_natText hc⟩
  · simpa using natText_ne_nil n
  · exact digitsValue_toDigits (by decide)
      (fun d hd => by rw [digitValue?_digitChar d hd, Option.getD_some]) n

end Stencil

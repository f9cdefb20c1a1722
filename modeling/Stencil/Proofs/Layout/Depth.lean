import Stencil.Layout.Profile
import Stencil.Proofs.Literal.Display
import Stencil.Proofs.Literal.Inert

/-! # The depth of shown literals

The brackets of a literal's text are as deep as its lists are nested and always
balanced: tuples, sets and dictionaries have brackets of other kinds, and what
stands in quotes does not count.
-/

namespace Stencil

open Layout Literal

namespace Literal

mutual
/-- The most lists on a path down from a literal. -/
def listDepth : Literal → Nat
  | scalar _ => 0
  | list xs => listDepthAll xs + 1
  | tuple xs => listDepthAll xs
  | set xs => listDepthAll xs
  | dict es => listDepthEntries es

def listDepthAll : List Literal → Nat
  | [] => 0
  | x :: xs => max (listDepth x) (listDepthAll xs)

def listDepthEntries : List (Literal × Literal) → Nat
  | [] => 0
  | (k, v) :: es => max (max (listDepth k) (listDepth v)) (listDepthEntries es)
end

end Literal

namespace Layout

theorem profileFrom_opening (level deepest : Nat) (sound : Bool) (cs : List (Char × Bool)) :
    profileFrom level deepest sound (('[', false) :: cs) =
      profileFrom (level + 1 : Nat) (max deepest (level + 1)) sound cs := by
  have up : ((level : Int) + 1) = (level + 1 : Nat) := by omega
  change profileFrom (level + 1) (max deepest ((level : Int) + 1).toNat) sound cs = _
  rw [up, Int.toNat_natCast]

theorem profileFrom_closing (level deepest : Nat) (sound : Bool) (cs : List (Char × Bool)) :
    profileFrom (level + 1 : Nat) deepest sound ((']', false) :: cs) =
      profileFrom level deepest sound cs := by
  have open_ : decide (0 < ((level + 1 : Nat) : Int)) = true := by
    simp only [decide_eq_true_eq]
    omega
  have down : ((level + 1 : Nat) : Int) - 1 = level := by omega
  change profileFrom (((level + 1 : Nat) : Int) - 1) deepest
    (sound && decide (0 < ((level + 1 : Nat) : Int))) cs = _
  rw [down, open_, Bool.and_true]

/-- Text that closes the brackets it opens and reaches a depth above the level it stands at. -/
def Deepens (t : Text) (n : Nat) : Prop :=
  ∀ (level deepest : Nat) (sound : Bool) (rest : Text), level ≤ deepest →
    profileFrom level deepest sound (scanFrom .outside (t ++ rest)) =
      profileFrom level (max deepest (level + n)) sound (scanFrom .outside rest)

namespace Deepens

variable {t u : Text} {m n : Nat}

theorem nil : Deepens [] 0 := by
  intro level deepest sound rest below
  rw [Nat.add_zero, Nat.max_eq_left below]
  rfl

theorem append (ht : Deepens t m) (hu : Deepens u n) : Deepens (t ++ u) (max m n) := by
  intro level deepest sound rest below
  have reached : max (max deepest (level + m)) (level + n) = max deepest (level + max m n) := by
    omega
  rw [List.append_assoc, ht level deepest sound (u ++ rest) below,
    hu level _ sound rest (by omega), reached]

theorem plain {c : Char} (quote : isQuote c = false) (seam : c ≠ '[' ∧ c ≠ ']') :
    Deepens [c] 0 := by
  intro level deepest sound rest below
  rw [Nat.add_zero, Nat.max_eq_left below]
  simp [scanFrom, Place.quotes, quote, after_outside quote, profileFrom, seam]

theorem bracket (h : Deepens t n) : Deepens ('[' :: (t ++ [']'])) (n + 1) := by
  intro level deepest sound rest below
  have reached : max (max deepest (level + 1)) (level + 1 + n) = max deepest (level + (n + 1)) := by
    omega
  have opening : scanFrom .outside ('[' :: (t ++ ']' :: rest)) =
      ('[', false) :: scanFrom .outside (t ++ ']' :: rest) := rfl
  have closing : scanFrom .outside (']' :: rest) = (']', false) :: scanFrom .outside rest := rfl
  rw [List.cons_append, List.append_assoc, List.singleton_append, opening, profileFrom_opening,
    h (level + 1) _ sound _ (by omega), reached, closing, profileFrom_closing]

theorem chars {t : Text} (h : ∀ c ∈ t, isQuote c = false ∧ c ≠ '[' ∧ c ≠ ']') : Deepens t 0 := by
  induction t with
  | nil => exact nil
  | cons c t ih =>
      obtain ⟨⟨quote, seam⟩, rest⟩ := List.forall_mem_cons.mp h
      exact (plain quote seam).append (ih rest)

theorem profileFrom_quoted (level : Int) (deepest : Nat) (sound : Bool) (w : Text)
    (cs : List (Char × Bool)) :
    profileFrom level deepest sound (w.map (·, true) ++ cs) =
      profileFrom level deepest sound cs := by
  induction w with
  | nil => rfl
  | cons c w ih => exact ih

theorem inert (h : Inert t) : Deepens t 0 := by
  induction h with
  | nil => exact nil
  | plain quote seam _ ih =>
      obtain ⟨opening, closing, -⟩ := not_seam seam
      exact (plain quote ⟨opening, closing⟩).append ih
  | @quoted q body t mark inner _ ih =>
      intro level deepest sound rest below
      rw [List.cons_append, List.append_assoc, List.cons_append, scanFrom_quoted mark inner,
        profileFrom_quoted]
      exact ih level deepest sound rest below

theorem behind (ht : Deepens t 0) (hu : Deepens u n) : Deepens (t ++ u) n := by
  simpa only [Nat.zero_max] using ht.append hu

theorem before (ht : Deepens t n) (hu : Deepens u 0) : Deepens (t ++ u) n := by
  simpa only [Nat.max_zero] using ht.append hu

/-- Brackets of other kinds do not count. -/
theorem enclosed {a b : Char} (ha : Deepens [a] 0) (hb : Deepens [b] 0) (h : Deepens t n) :
    Deepens (a :: (t ++ [b])) n := behind ha (before h hb)

theorem braced (h : Deepens t n) : Deepens ('\x7b' :: (t ++ ['\x7d'])) n :=
  enclosed (plain rfl (by decide)) (plain rfl (by decide)) h

end Deepens

/-! ## Literals -/

theorem deepens_comma : Deepens ", " 0 := .chars (List.all_iff_forall_prop.mp (by decide))

theorem deepens_colon : Deepens ": " 0 := .chars (List.all_iff_forall_prop.mp (by decide))

mutual
/-- The text of a literal reaches as deep as its lists are nested. -/
theorem deepens_display : (l : Literal) → Deepens l.display l.listDepth
  | .scalar s => .inert (atom_scalar s).inert
  | .list xs => by
      rw [Literal.display, listDepth]
      exact .bracket (deepens_displayAll xs)
  | .tuple xs => by
      have comma : Deepens (lastComma xs) 0 := by
        apply Deepens.chars
        intro c hc
        rw [mem_lastComma hc]
        decide
      rw [display_tuple, listDepth]
      exact .enclosed (.plain rfl (by decide)) (.plain rfl (by decide))
        (.before (deepens_displayAll xs) comma)
  | .set [] => .chars (List.all_iff_forall_prop.mp (by decide))
  | .set (x :: xs) => by
      exact .braced (deepens_displayAll (x :: xs))
  | .dict es => by
      rw [Literal.display, listDepth]
      exact .braced (deepens_displayEntries es)

theorem deepens_displayAll : (xs : List Literal) → Deepens (displayAll xs) (listDepthAll xs)
  | [] => .nil
  | [x] => by
      rw [displayAll, listDepthAll, listDepthAll, Nat.max_zero]
      exact deepens_display x
  | x :: y :: xs => by
      rw [displayAll, listDepthAll]
      exact .append (.before (deepens_display x) deepens_comma) (deepens_displayAll (y :: xs))

theorem deepens_displayEntries : (es : List (Literal × Literal)) →
    Deepens (displayEntries es) (listDepthEntries es)
  | [] => .nil
  | [(k, v)] => by
      rw [displayEntries, listDepthEntries, listDepthEntries, Nat.max_zero]
      exact .append (.before (deepens_display k) deepens_colon) (deepens_display v)
  | (k, v) :: e :: es => by
      rw [displayEntries, listDepthEntries]
      exact .append (.before (.append (.before (deepens_display k) deepens_colon)
        (deepens_display v)) deepens_comma) (deepens_displayEntries (e :: es))
end

theorem Deepens.profile {t : Text} {n : Nat} (h : Deepens t n) : profile t = ⟨n, true⟩ := by
  have whole : profileFrom 0 0 true (scanFrom .outside (t ++ [])) =
      profileFrom 0 (max 0 (0 + n)) true [] := h 0 0 true [] (Nat.le_refl 0)
  rw [List.append_nil, Nat.zero_add, Nat.zero_max] at whole
  exact whole

/-- The brackets of a literal's text are balanced and as deep as its lists. -/
theorem profile_display (l : Literal) : profile l.display = ⟨l.listDepth, true⟩ :=
  (deepens_display l).profile

end Layout

end Stencil

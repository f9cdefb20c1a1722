import Mathlib.Data.List.Basic
import Mathlib.Data.List.TakeWhile
import Stencil.Text.Blank

/-! # Trimming

Trimming takes off the blanks around a text whose first and last characters are
not blank, and leaves that text. So whatever is trimmed is blanks around the
result, and trimming a second time changes nothing.
-/

namespace Stencil.Text

/-- Text that neither starts nor ends with a blank. -/
structure Trimmed (t : Text) : Prop where
  head : ∀ c ∈ t.head?, Stencil.isBlank c = false
  last : ∀ c ∈ t.getLast?, Stencil.isBlank c = false

theorem trimStart_blanks {g : Text} (hg : ∀ c ∈ g, Stencil.isBlank c) (t : Text) :
    trimStart (g ++ t) = trimStart t := List.dropWhile_append_of_pos hg

theorem trimStart_self {t : Text} (h : ∀ c ∈ t.head?, Stencil.isBlank c = false) :
    trimStart t = t := by
  cases t with
  | nil => rfl
  | cons c t =>
      have visible := h c rfl
      simp [trimStart, visible]

theorem trimEnd_blanks {g : Text} (hg : ∀ c ∈ g, Stencil.isBlank c) (t : Text) :
    trimEnd (t ++ g) = trimEnd t := by
  have reversed : ∀ c ∈ g.reverse, Stencil.isBlank c := fun c hc => hg c (List.mem_reverse.mp hc)
  rw [trimEnd, trimEnd, List.reverse_append, List.dropWhile_append_of_pos reversed]

theorem trimEnd_self {t : Text} (h : ∀ c ∈ t.getLast?, Stencil.isBlank c = false) :
    trimEnd t = t := by
  have start := trimStart_self (t := t.reverse) (by rwa [List.head?_reverse])
  rw [trimStart] at start
  rw [trimEnd, start, List.reverse_reverse]

theorem last_append {t u : Text} (ht : ∀ c ∈ t.getLast?, Stencil.isBlank c = false)
    (hu : ∀ c ∈ u.getLast?, Stencil.isBlank c = false) :
    ∀ c ∈ (t ++ u).getLast?, Stencil.isBlank c = false := by
  cases e : u.getLast? with
  | none =>
      rw [List.getLast?_eq_none_iff.mp e, List.append_nil]
      exact ht
  | some c =>
      rw [List.getLast?_append, e]
      rwa [e] at hu

/-- Trimming undoes padding with blanks. -/
theorem trim_padded {g t h : Text} (hg : ∀ c ∈ g, Stencil.isBlank c)
    (hh : ∀ c ∈ h, Stencil.isBlank c) (ht : Trimmed t) : trim (g ++ t ++ h) = t := by
  rw [trim, List.append_assoc, trimStart_blanks hg]
  cases t with
  | nil =>
      have blank := trimStart_blanks hh []
      rw [List.append_nil] at blank
      rw [List.nil_append, blank]
      rfl
  | cons c t =>
      rw [trimStart_self (t := c :: t ++ h) ht.head, trimEnd_blanks hh, trimEnd_self ht.last]

theorem trimStart_split (t : Text) :
    ∃ g, t = g ++ trimStart t ∧ ∀ c ∈ g, Stencil.isBlank c :=
  ⟨t.takeWhile Stencil.isBlank, List.takeWhile_append_dropWhile.symm,
    fun _ => List.mem_takeWhile_imp⟩

theorem trimEnd_split (t : Text) : ∃ g, t = trimEnd t ++ g ∧ ∀ c ∈ g, Stencil.isBlank c := by
  obtain ⟨g, split, blank⟩ := trimStart_split t.reverse
  refine ⟨g.reverse, ?_, fun c hc => blank c (List.mem_reverse.mp hc)⟩
  rw [trimEnd, ← List.reverse_append, ← trimStart, ← split, List.reverse_reverse]

/-- A text is what trimming leaves of it, between blanks. -/
theorem trim_split (t : Text) : ∃ g h, t = g ++ trim t ++ h ∧
    (∀ c ∈ g, Stencil.isBlank c) ∧ ∀ c ∈ h, Stencil.isBlank c := by
  obtain ⟨g, start, before⟩ := trimStart_split t
  obtain ⟨h, stop, behind⟩ := trimEnd_split (trimStart t)
  refine ⟨g, h, ?_, before, behind⟩
  rw [List.append_assoc, trim, ← stop, ← start]

theorem dropWhile_head {p : Char → Bool} (t : Text) :
    ∀ c ∈ (t.dropWhile p).head?, p c = false := by
  intro c hc
  have first := List.head?_dropWhile_not p t
  rw [hc] at first
  exact first

theorem trimStart_head (t : Text) : ∀ c ∈ (trimStart t).head?, Stencil.isBlank c = false :=
  dropWhile_head t

theorem trimmed_trim (t : Text) : Trimmed (trim t) where
  head := by
    intro c hc
    obtain ⟨g, stop, -⟩ := trimEnd_split (trimStart t)
    apply trimStart_head t
    rw [stop, List.head?_append]
    change (trim t).head?.or _ = some c
    rw [hc]
    rfl
  last := by
    rw [trim, trimEnd, List.getLast?_reverse]
    exact trimStart_head (trimStart t).reverse

namespace Trimmed

theorem trim {t : Text} (h : Trimmed t) : trim t = t := by
  have padded := trim_padded (g := []) (h := []) (by simp) (by simp) h
  rwa [List.append_nil] at padded

theorem between {o c : Char} {t : Text} (ho : Stencil.isBlank o = false)
    (hc : Stencil.isBlank c = false) : Trimmed (o :: (t ++ [c])) where
  head := by simpa using ho
  last := by
    rw [← List.cons_append, List.getLast?_concat]
    simpa using hc

theorem of_visible {t : Text} (h : ∀ c ∈ t, Stencil.isBlank c = false) : Trimmed t where
  head c hc := h c (List.mem_of_mem_head? hc)
  last c hc := h c (List.mem_of_getLast? hc)

theorem append {t u : Text} (h : Trimmed t) (ht : t ≠ [])
    (hu : ∀ c ∈ u.getLast?, Stencil.isBlank c = false) : Trimmed (t ++ u) where
  head := by
    obtain ⟨c, t, rfl⟩ := List.exists_cons_of_ne_nil ht
    exact h.head
  last := last_append h.last hu

end Trimmed

end Stencil.Text

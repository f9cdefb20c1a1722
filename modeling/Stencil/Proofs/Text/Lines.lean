import Mathlib.Data.List.Basic
import Stencil.Proofs.Text.Characters
import Stencil.Proofs.Text.Trim

/-! # Lines of a text

Cutting a text at each of its line breaks gives its lines, but for empty ones: a
carriage return and the line feed behind it are one break, and behind the last
break no line starts. So the lines that are not blank obey a simple law, that a
line break anywhere parts those in front of it from those behind it.
-/

namespace Stencil.Text

def Unbroken (t : Text) : Prop := ∀ c ∈ t, isLineBreak c = false

def visible (t : Text) : Text := t.filter fun c => !Stencil.isBlank c

/-- The lines of a text that are not blank, without their outer blanks. -/
def shownLines (t : Text) : List Text := ((lines t).filter fun l => !isBlank l).map trim

/-- Texts of which some empty ones are left out. -/
inductive Thinned : List Text → List Text → Prop where
  | nil : Thinned [] []
  | keep {ls pieces} (l : Text) : Thinned ls pieces → Thinned (l :: ls) (l :: pieces)
  | drop {ls pieces} : Thinned ls pieces → Thinned ls ([] :: pieces)

/-! ## Lines and cuts -/

theorem Thinned.mem {ls pieces l} (h : Thinned ls pieces) (hl : l ∈ ls) : l ∈ pieces := by
  induction h with
  | nil => exact hl
  | keep m _ ih => exact List.mem_cons.mpr ((List.mem_cons.mp hl).imp_right ih)
  | drop _ ih => exact List.mem_cons_of_mem _ (ih hl)

theorem Thinned.shown {ls pieces} (h : Thinned ls pieces) :
    ls.filter (fun l => !isBlank l) = pieces.filter fun l => !isBlank l := by
  induction h with
  | nil => rfl
  | keep l _ ih => rw [List.filter_cons, List.filter_cons, ih]
  | drop _ ih => exact ih

/-- The lines of a text are the pieces that its line breaks cut it into, but for empty ones. The
    first line is the first piece. -/
theorem lines_cut (t : Text) : ∃ first pieces, t.splitOnP isLineBreak = first :: pieces ∧
    Thinned (lines t) (first :: pieces) ∧
      (lines t = [] ∨ ∃ rest, lines t = first :: rest ∧ Thinned rest pieces) := by
  fun_induction lines t with
  | case1 => exact ⟨[], [], rfl, .drop .nil, .inl rfl⟩
  | case2 t ih =>
      obtain ⟨first, pieces, cut, thinned, -⟩ := ih
      refine ⟨[], [] :: first :: pieces, ?_, .keep [] (.drop thinned),
        .inr ⟨lines t, rfl, .drop thinned⟩⟩
      have feed : ('\n' :: t).splitOnP isLineBreak = [] :: first :: pieces := by
        rw [List.splitOnP_cons_eq_if_modifyHead, cut]
        rfl
      rw [List.splitOnP_cons_eq_if_modifyHead, feed]
      rfl
  | case3 c t _ h ih =>
      obtain ⟨first, pieces, cut, thinned, -⟩ := ih
      refine ⟨[], first :: pieces, ?_, .keep [] thinned, .inr ⟨lines t, rfl, thinned⟩⟩
      rw [List.splitOnP_cons_eq_if_modifyHead, if_pos h, cut]
  | case4 c t _ h none ih =>
      obtain ⟨first, pieces, cut, thinned, -⟩ := ih
      rw [none] at thinned
      cases thinned with
      | drop thinned =>
          refine ⟨[c], pieces, ?_, .keep [c] thinned, .inr ⟨[], rfl, thinned⟩⟩
          rw [List.splitOnP_cons_eq_if_modifyHead, if_neg h, cut]
          rfl
  | case5 c t _ h line more some ih =>
      obtain ⟨first, pieces, cut, -, none | ⟨rest, some', thinned⟩⟩ := ih
      · cases none.symm.trans some
      · cases some.symm.trans some'
        refine ⟨c :: line, pieces, ?_, .keep _ thinned, .inr ⟨more, rfl, thinned⟩⟩
        rw [List.splitOnP_cons_eq_if_modifyHead, if_neg h, cut]
        rfl

theorem lines_thinned (t : Text) : Thinned (lines t) (t.splitOnP isLineBreak) := by
  obtain ⟨first, pieces, cut, thinned, -⟩ := lines_cut t
  rw [cut]
  exact thinned

theorem unbroken_piece {t l : Text} (h : l ∈ t.splitOnP isLineBreak) : Unbroken l := by
  induction t generalizing l with
  | nil =>
      cases List.mem_singleton.mp h
      exact fun c hc => absurd hc List.not_mem_nil
  | cons c t ih =>
      obtain ⟨first, pieces, cut, -⟩ := lines_cut t
      rw [cut] at ih
      rw [List.splitOnP_cons_eq_if_modifyHead, cut] at h
      split at h
      · rcases List.mem_cons.mp h with rfl | h
        · exact fun d hd => absurd hd List.not_mem_nil
        · exact ih h
      · rename_i plain
        rcases List.mem_cons.mp h with rfl | h
        · intro d hd
          rcases List.mem_cons.mp hd with rfl | hd
          · exact Bool.not_eq_true _ ▸ plain
          · exact ih List.mem_cons_self d hd
        · exact ih (List.mem_cons_of_mem _ h)

theorem unbroken_line {t l : Text} (h : l ∈ lines t) : Unbroken l :=
  unbroken_piece ((lines_thinned t).mem h)

theorem shownLines_eq (t : Text) :
    shownLines t = ((t.splitOnP isLineBreak).filter fun l => !isBlank l).map trim := by
  rw [shownLines, (lines_thinned t).shown]

theorem lines_unbroken {t : Text} (h : Unbroken t) : lines t = [] ∧ t = [] ∨ lines t = [t] := by
  obtain ⟨first, pieces, cut, thinned, shape⟩ := lines_cut t
  rw [List.splitOnP_eq_singleton h] at cut
  cases cut
  rcases shape with none | ⟨rest, some, others⟩
  · rw [none] at thinned
    cases thinned with
    | drop => exact .inl ⟨none, rfl⟩
  · cases others
    exact .inr some

/-- The pieces that line breaks cut a text into hold all that can be seen of it. -/
theorem visible_split (t : Text) : (t.splitOnP isLineBreak).flatMap visible = visible t := by
  induction t with
  | nil => rfl
  | cons c t ih =>
      obtain ⟨first, pieces, cut, -⟩ := lines_cut t
      rw [List.splitOnP_cons_eq_if_modifyHead]
      split
      · rename_i h
        have blank : visible (c :: t) = visible t := by simp [visible, lineBreak_blank h]
        rw [List.flatMap_cons, ih, blank]
        rfl
      · rw [cut] at ih ⊢
        have more (u : Text) : visible (c :: u) = visible [c] ++ visible u :=
          List.filter_append [c] u
        rw [List.modifyHead_cons, List.flatMap_cons, more, List.append_assoc, ← List.flatMap_cons,
          ih, ← more]

/-! ## The lines that are shown -/

theorem shownLines_unbroken {t : Text} (h : Unbroken t) :
    shownLines t = if isBlank t then [] else [trim t] := by
  rw [shownLines_eq, List.splitOnP_eq_singleton h]
  cases blank : isBlank t with
  | true => simp [blank]
  | false => simp [blank]

/-- A line break parts the lines in front of it from those behind it. -/
theorem shownLines_break {k : Char} (hk : isLineBreak k) (t u : Text) :
    shownLines (t ++ k :: u) = shownLines t ++ shownLines u := by
  rw [shownLines_eq, shownLines_eq, shownLines_eq, List.splitOnP_append_cons t u hk,
    List.filter_append, List.map_append]

theorem last_break (t : Text) :
    Unbroken t ∨ ∃ u k w, t = u ++ k :: w ∧ isLineBreak k ∧ Unbroken w := by
  induction t with
  | nil => exact .inl fun c hc => absurd hc List.not_mem_nil
  | cons c t ih =>
      rcases ih with unbroken | ⟨u, k, w, rfl, hk, hw⟩
      · cases hc : isLineBreak c with
        | true => exact .inr ⟨[], c, t, rfl, hc, unbroken⟩
        | false => exact .inl (List.forall_mem_cons.mpr ⟨hc, unbroken⟩)
      · exact .inr ⟨c :: u, k, w, rfl, hk, hw⟩

theorem first_break (t : Text) :
    Unbroken t ∨ ∃ u k w, t = u ++ k :: w ∧ isLineBreak k ∧ Unbroken u := by
  induction t with
  | nil => exact .inl fun c hc => absurd hc List.not_mem_nil
  | cons c t ih =>
      cases hc : isLineBreak c with
      | true => exact .inr ⟨[], c, t, rfl, hc, fun d hd => absurd hd List.not_mem_nil⟩
      | false =>
          rcases ih with unbroken | ⟨u, k, w, rfl, hk, hu⟩
          · exact .inl (List.forall_mem_cons.mpr ⟨hc, unbroken⟩)
          · exact .inr ⟨c :: u, k, w, rfl, hk, List.forall_mem_cons.mpr ⟨hc, hu⟩⟩

/-- What stands behind a text can only go on with its last line. -/
theorem shownLines_behind (t : Text) : ∃ ls last, Unbroken last ∧
    ∀ u, shownLines (t ++ u) = ls ++ shownLines (last ++ u) := by
  rcases last_break t with unbroken | ⟨v, k, w, rfl, hk, hw⟩
  · exact ⟨[], t, unbroken, fun u => rfl⟩
  · refine ⟨shownLines v, w, hw, fun u => ?_⟩
    rw [List.append_assoc, List.cons_append, shownLines_break hk]

/-- What stands in front of a text can only end in its first line. -/
theorem shownLines_before (t : Text) : ∃ first ls, Unbroken first ∧
    ∀ u, shownLines (u ++ t) = shownLines (u ++ first) ++ ls := by
  rcases first_break t with unbroken | ⟨v, k, w, rfl, hk, hv⟩
  · exact ⟨t, [], unbroken, fun u => (List.append_nil _).symm⟩
  · refine ⟨v, shownLines w, hv, fun u => ?_⟩
    rw [← List.append_assoc, shownLines_break hk]

theorem shownLines_blank {c : Char} (hc : Stencil.isBlank c) (t : Text) :
    shownLines (c :: t) = shownLines t := by
  cases hk : isLineBreak c with
  | true => exact shownLines_break hk [] t
  | false =>
      obtain ⟨first, ls, unbroken, split⟩ := shownLines_before t
      have one : ∀ d ∈ [c], Stencil.isBlank d := by simpa using hc
      have same : shownLines (c :: first) = shownLines first := by
        have trimmed : trim (c :: first) = trim first := by
          rw [trim, ← List.singleton_append, trimStart_blanks one, trim]
        rw [shownLines_unbroken (List.forall_mem_cons.mpr ⟨hk, unbroken⟩),
          shownLines_unbroken unbroken, trimmed]
        simp [isBlank, hc]
      have front := split [c]
      have alone := split []
      rw [List.singleton_append, List.singleton_append, same] at front
      exact front.trans alone.symm

/-- Blanks in front of a text are not shown, line breaks among them or not. -/
theorem shownLines_blanks {g : Text} (hg : ∀ c ∈ g, Stencil.isBlank c) (t : Text) :
    shownLines (g ++ t) = shownLines t := by
  induction g with
  | nil => rfl
  | cons c g ih =>
      rw [List.forall_mem_cons] at hg
      rw [List.cons_append, shownLines_blank hg.1, ih hg.2]

end Stencil.Text

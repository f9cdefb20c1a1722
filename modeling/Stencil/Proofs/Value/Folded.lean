import Stencil.Proofs.Text.Lines
import Stencil.Proofs.Literal.Display
import Stencil.Value.Compact

/-! # Folding into one line

The text of a value on one line is its structural text with the lines put side by
side, where it has more than one. Line breaks go, and blanks beside them, while a
space stands in for whatever parted the last visible character of a line from
the first one of the next. Within its lines the text stays as it is.
-/

namespace Stencil

namespace Text

instance (t : Text) : Decidable (Unbroken t) :=
  decidable_of_iff (t.all (fun c => !isLineBreak c) = true) (by simp [Unbroken])

/-! ## Joining -/

theorem joinWith_cons (sep t : Text) {ts : List Text} (h : ts ≠ []) :
    joinWith sep (t :: ts) = t ++ sep ++ joinWith sep ts := by
  obtain ⟨u, us, rfl⟩ := List.exists_cons_of_ne_nil h
  rfl

/-- Joined texts can be parted in the middle of one of them. -/
theorem joinWith_parted (sep : Text) (ts : List Text) (t u : Text) (us : List Text) :
    joinWith sep (ts ++ (t ++ u) :: us) =
      joinWith sep (ts ++ [t]) ++ joinWith sep (u :: us) := by
  induction ts with
  | nil =>
      cases us with
      | nil => rfl
      | cons v us => simp [joinWith]
  | cons s ts ih =>
      rw [List.cons_append, List.cons_append, joinWith_cons sep s (by simp),
        joinWith_cons sep s (by simp), ih]
      simp only [List.append_assoc]

theorem visible_append (t u : Text) : visible (t ++ u) = visible t ++ visible u :=
  List.filter_append t u

theorem visible_blanks {g : Text} (hg : ∀ c ∈ g, Stencil.isBlank c) : visible g = [] := by
  rw [visible, List.filter_eq_nil_iff]
  intro c hc
  simp [hg c hc]

theorem visible_cons {c : Char} (hc : Stencil.isBlank c = false) (t : Text) :
    visible (c :: t) = c :: visible t := by simp [visible, hc]

theorem visible_trim (t : Text) : visible (trim t) = visible t := by
  obtain ⟨g, h, split, front, back⟩ := trim_split t
  have parts := congrArg visible split
  rw [visible_append, visible_append, visible_blanks front, visible_blanks back] at parts
  simpa using parts.symm

theorem visible_joinWith {sep : Text} (hsep : ∀ c ∈ sep, Stencil.isBlank c) (ts : List Text) :
    visible (joinWith sep ts) = ts.flatMap visible := by
  induction ts with
  | nil => rfl
  | cons t ts ih =>
      cases ts with
      | nil => simp [joinWith]
      | cons u us =>
          rw [joinWith_cons sep t (by simp), visible_append, visible_append, visible_blanks hsep,
            ih, List.append_nil, List.flatMap_cons (x := t)]

/-! ## Trimming beside a visible character -/

theorem trimStart_visible (t : Text) {c : Char} (hc : Stencil.isBlank c = false) (u : Text) :
    trimStart (t ++ c :: u) = trimStart t ++ c :: u := by
  have stop : (c :: u).dropWhile Stencil.isBlank = c :: u := List.dropWhile_cons_of_neg (by simp [hc])
  rw [trimStart, List.dropWhile_append, stop, trimStart]
  split
  · rename_i all
    rw [List.isEmpty_iff.mp all, List.nil_append]
  · rfl

theorem trimEnd_visible (t : Text) {c : Char} (hc : Stencil.isBlank c = false) (u : Text) :
    trimEnd (t ++ c :: u) = t ++ c :: trimEnd u := by
  have turned : (t ++ c :: u).reverse = u.reverse ++ c :: t.reverse := by simp
  have start := trimStart_visible u.reverse hc t.reverse
  rw [trimStart, trimStart] at start
  rw [trimEnd, turned, start, trimEnd]
  simp

theorem trim_visible (t : Text) {c : Char} (hc : Stencil.isBlank c = false) (u : Text) :
    trim (t ++ c :: u) = trimStart t ++ c :: trimEnd u := by
  rw [trim, trimStart_visible t hc, trimEnd_visible _ hc]

theorem not_isBlank (t : Text) {c : Char} (hc : Stencil.isBlank c = false) (u : Text) :
    isBlank (t ++ c :: u) = false := by simp [isBlank, hc]

theorem trimEnd_all {g : Text} (hg : ∀ c ∈ g, Stencil.isBlank c) : trimEnd g = [] :=
  trimEnd_blanks hg []

/-! ## The folded text -/

theorem fold_unbroken {t : Text} (h : Unbroken t) : fold t = t := by
  rw [fold, if_neg]
  rcases lines_unbroken h with ⟨lines, rfl⟩ | lines
  · simp [lines]
  · simp [lines]

theorem fold_broken {t : Text} (h : ¬ Unbroken t) : fold t = joinWith " " (shownLines t) := by
  rw [fold, if_pos, shownLines]
  by_contra same
  rw [not_or, not_not] at same
  apply h
  intro c hc
  rw [same.2] at hc
  obtain ⟨l, hl, hc⟩ := List.mem_flatten.mp hc
  exact unbroken_line hl c hc

theorem space_blank : ∀ c ∈ (" " : Text), Stencil.isBlank c := List.forall_mem_singleton.mpr rfl

theorem visible_shownLines (t : Text) : visible (joinWith " " (shownLines t)) = visible t := by
  have shown (ls : List Text) :
      ((ls.filter fun l => !isBlank l).map trim).flatMap visible = ls.flatMap visible := by
    induction ls with
    | nil => rfl
    | cons l ls ih =>
        rw [List.filter_cons]
        split
        · rw [List.map_cons, List.flatMap_cons, ih, visible_trim, List.flatMap_cons]
        · rename_i blank
          have none : visible l = [] := by
            apply visible_blanks
            simpa [isBlank] using blank
          rw [ih, List.flatMap_cons, none, List.nil_append]
  rw [visible_joinWith space_blank, shownLines_eq, shown, visible_split]

theorem visible_fold (t : Text) : visible (fold t) = visible t := by
  by_cases h : Unbroken t
  · rw [fold_unbroken h]
  · rw [fold_broken h, visible_shownLines]

theorem unbroken_fold (t : Text) : Unbroken (fold t) := by
  by_cases h : Unbroken t
  · rwa [fold_unbroken h]
  · rw [fold_broken h]
    intro c hc
    rcases Literal.mem_joinWith hc with space | ⟨l, hl, hc⟩
    · cases List.mem_singleton.mp space
      rfl
    · obtain ⟨l, shown, rfl⟩ := List.mem_map.mp hl
      have line := unbroken_line (List.mem_filter.mp shown).1
      obtain ⟨g, h, split, -⟩ := trim_split l
      apply line
      rw [split]
      exact List.mem_append_left _ (List.mem_append_right _ hc)

theorem fold_same_iff (t : Text) : fold t = t ↔ Unbroken t := by
  constructor
  · intro same
    rw [← same]
    exact unbroken_fold t
  · exact fold_unbroken

/-! ## What stands between visible characters -/

/-- What a folded text has between two visible characters with nothing visible between them, by
    what the text has there. -/
def foldedGap (g : Text) : Text := if Unbroken g then g else " "

theorem visible_not_break {c : Char} (hc : Stencil.isBlank c = false) : isLineBreak c = false := by
  cases h : isLineBreak c with
  | false => rfl
  | true =>
      rw [lineBreak_blank h] at hc
      cases hc

theorem shownLines_line {t u : Text} {c : Char} (ht : Unbroken t) (hc : Stencil.isBlank c = false)
    (hu : Unbroken u) : shownLines (t ++ c :: u) = [trimStart t ++ c :: trimEnd u] := by
  have line : Unbroken (t ++ c :: u) :=
    List.forall_mem_append.mpr ⟨ht, List.forall_mem_cons.mpr ⟨visible_not_break hc, hu⟩⟩
  rw [shownLines_unbroken line, not_isBlank t hc, trim_visible t hc]
  rfl

/-- The shown lines of a text are cut at two visible characters in it, by what is in front of the
    first, behind the second, and between them. -/
theorem shownLines_around (a b : Text) : ∃ ls x y ms,
    (∀ c g, Stencil.isBlank c = false → Unbroken g →
      shownLines (a ++ c :: g) = ls ++ [x ++ c :: trimEnd g]) ∧
    (∀ d, Stencil.isBlank d = false → shownLines (d :: b) = (d :: y) :: ms) ∧
    ∀ c g d, Stencil.isBlank c = false → Stencil.isBlank d = false → Unbroken g →
      shownLines (a ++ c :: (g ++ d :: b)) = ls ++ (x ++ c :: (g ++ d :: y)) :: ms := by
  obtain ⟨ls, last, hlast, behind⟩ := shownLines_behind a
  obtain ⟨first, ms, hfirst, before⟩ := shownLines_before b
  refine ⟨ls, trimStart last, trimEnd first, ms, ?_, ?_, ?_⟩
  · intro c g hc hg
    rw [behind, shownLines_line hlast hc hg]
  · intro d hd
    have none : Unbroken [] := fun c hc => absurd hc List.not_mem_nil
    have alone := shownLines_line none hd hfirst
    rw [List.nil_append] at alone
    rw [← List.singleton_append, before, List.singleton_append, alone]
    rfl
  · intro c g d hc hd hg
    have middle : Unbroken (g ++ d :: first) :=
      List.forall_mem_append.mpr ⟨hg, List.forall_mem_cons.mpr ⟨visible_not_break hd, hfirst⟩⟩
    have cut (u : Text) : last ++ c :: (g ++ d :: u) = (last ++ c :: (g ++ [d])) ++ u := by simp
    rw [behind, cut, before, ← cut, shownLines_line hlast hc middle, trimEnd_visible g hd]
    rfl

/-- A folded text around two visible characters of the text with only blanks between them. -/
theorem fold_around (a b : Text) : ∃ x y, visible x = visible a ∧ visible y = visible b ∧
    ∀ c g d, Stencil.isBlank c = false → Stencil.isBlank d = false →
      (∀ e ∈ g, Stencil.isBlank e) → ¬ Unbroken (a ++ c :: (g ++ d :: b)) →
      fold (a ++ c :: (g ++ d :: b)) = x ++ c :: (foldedGap g ++ d :: y) := by
  obtain ⟨ls, x, y, ms, front, back, through⟩ := shownLines_around a b
  have start (d : Char) : joinWith " " ((d :: y) :: ms) = d :: joinWith " " (y :: ms) :=
    joinWith_parted " " [] [d] y ms
  refine ⟨joinWith " " (ls ++ [x]), joinWith " " (y :: ms), ?_, ?_, ?_⟩
  · have all := visible_shownLines (a ++ ['x'])
    have none : Unbroken [] := fun c hc => absurd hc List.not_mem_nil
    have one : joinWith " " (ls ++ [x ++ ['x']]) = joinWith " " (ls ++ [x]) ++ ['x'] :=
      joinWith_parted " " ls x ['x'] []
    rw [front 'x' [] rfl none, trimEnd_all (by simp), one, visible_append, visible_append] at all
    exact List.append_cancel_right all
  · have all := visible_shownLines ('x' :: b)
    rw [back 'x' rfl, start, visible_cons rfl, visible_cons rfl] at all
    exact (List.cons.inj all).2
  · intro c g d hc hd blank broken
    rw [fold_broken broken, foldedGap]
    split
    · rename_i plain
      rw [through c g d hc hd plain, joinWith_parted]
      have inner : joinWith " " ((c :: (g ++ d :: y)) :: ms) =
          c :: (g ++ d :: joinWith " " (y :: ms)) := by
        have parts := joinWith_parted " " [] (c :: (g ++ [d])) y ms
        simpa [joinWith] using parts
      rw [inner]
    · rename_i lines
      obtain ⟨v, k, w, rfl, hk, hv⟩ := (first_break g).resolve_left lines
      rw [List.forall_mem_append, List.forall_mem_cons] at blank
      have cut : a ++ c :: (v ++ k :: w ++ d :: b) = (a ++ c :: v) ++ k :: (w ++ d :: b) := by simp
      rw [cut, shownLines_break hk, shownLines_blanks blank.2.2, front c v hc hv,
        trimEnd_all blank.1, back d hd, List.append_assoc, List.singleton_append, joinWith_parted,
        joinWith_cons " " [c] (by simp), start]
      simp

end Text

/-- The text of a value on one line has no line break and is the structural text exactly if that
    has none. It shows the same characters; between two of them with no other between, what the
    structural text has there is kept, unless a line ends there: then a space stands for it. -/
theorem Store.compactText_drops_layout (s : Store) (v : Value) :
    Text.Unbroken (s.compactText v) ∧
      (s.compactText v = s.debugText v ↔ Text.Unbroken (s.debugText v)) ∧
      Text.visible (s.compactText v) = Text.visible (s.debugText v) ∧
      ∀ a c g d b, s.debugText v = a ++ c :: (g ++ d :: b) → isBlank c = false →
        isBlank d = false → (∀ e ∈ g, isBlank e) →
        ∃ x y, s.compactText v = x ++ c :: ((if Text.Unbroken g then g else " ") ++ d :: y) ∧
          Text.visible x = Text.visible a ∧ Text.visible y = Text.visible b := by
  refine ⟨Text.unbroken_fold _, Text.fold_same_iff _, Text.visible_fold _, ?_⟩
  intro a c g d b text hc hd hg
  rw [compactText, text]
  by_cases unbroken : Text.Unbroken (a ++ c :: (g ++ d :: b))
  · refine ⟨a, b, ?_, rfl, rfl⟩
    have gap : Text.Unbroken g := by
      intro e he
      apply unbroken
      simp [he]
    rw [Text.fold_unbroken unbroken, if_pos gap]
  · obtain ⟨x, y, front, back, folds⟩ := Text.fold_around a b
    exact ⟨x, y, folds c g d hc hd hg unbroken, front, back⟩

/-- An object shown on two lines, with a blank line between them and breaks around them. -/
theorem Store.compactText_drops_layout_lines :
    let front : Text := "\n a\t"
    let gap : Text := " \r\n\x0b  "
    let back : Text := "\u2028"
    let t : Text := front ++ '1' :: (gap ++ 'b' :: back)
    let s : Store := [.custom ⟨"Box", .plain t, none, none, [], [], none, none⟩]
    s.debugText (.ref 0) = t ∧ ∃ x y, s.compactText (.ref 0) = x ++ '1' :: (" " ++ 'b' :: y) ∧
      Text.visible x = ['a'] ∧ Text.visible y = [] := by
  intro front gap back t s
  have shown : s.debugText (.ref 0) = t := by
    have whole : s.display (.ref 0) = .ok t := by
      rw [Store.display, displayFrom]
      rfl
    have plain : s.listLike? (.ref 0) = none := rfl
    rw [Store.debugText, plain, Store.safeDisplay, whole]
  obtain ⟨-, -, -, parts⟩ := Store.compactText_drops_layout s (.ref 0)
  have blank : ∀ e ∈ gap, isBlank e := List.all_eq_true.mp (by decide)
  obtain ⟨x, y, text, before, behind⟩ := parts front '1' gap 'b' back shown rfl rfl blank
  rw [if_neg (by decide)] at text
  exact ⟨shown, x, y, text, before, behind⟩

end Stencil

import Stencil.Proofs.Literal.Display
import Stencil.Proofs.Value.Holds
import Stencil.Value.Compact

/-! # Text of values that hold a literal

A value that holds a plain literal is shown as that literal: on one line by the
text of the literal itself, over several lines by text that denotes it, whatever
the padding.
-/

namespace Stencil

open Store

variable {s : Store}

/-! ## On one line -/

theorem mapM_ok {α β ε : Type} {f : α → Except ε Text} {g : β → Text} {vs : List α} {xs : List β}
    (h : List.Forall₂ (fun v x => f v = .ok (g x)) vs xs) : vs.mapM f = .ok (xs.map g) := by
  induction h with
  | nil => rfl
  | cons hv _ ih =>
      rw [List.mapM_cons, hv, ih]
      rfl

theorem displayFrom_cell {active since a c} (cell : s[a]? = some c) :
    displayFrom s active since (.ref a) =
      if c.isGuarded then
        if a ∈ active then .ok c.mark
        else c.displayWith s fun w => displayFrom s (a :: active) [] w
      else if a ∈ since then .error .descent
      else c.displayWith s fun w => displayFrom s active (a :: since) w := by
  rw [displayFrom]
  split
  · rename_i none
    cases cell.symm.trans none
  · rename_i found
    cases cell.symm.trans found
    rfl

theorem displayFrom_guarded {active since a c} (ha : s[a]? = some c) (hc : c.isGuarded)
    (fresh : a ∉ active) : displayFrom s active since (.ref a) =
      c.displayWith s fun w => displayFrom s (a :: active) [] w := by
  rw [displayFrom_cell ha, if_pos hc, if_neg fresh]

theorem displayEntries_ok {tell : Value → Except Fault Text} {ps : List (Value × Value)}
    {es : List (Literal × Literal)}
    (h : List.Forall₂ (fun p e => tell p.1 = .ok e.1.display ∧ tell p.2 = .ok e.2.display) ps es) :
    Cell.displayEntries tell ps = .ok (Literal.dict es).display := by
  have parts := mapM_ok (f := fun p => do
      let k ← tell p.1
      let v ← tell p.2
      pure (k ++ ": " ++ v))
    (g := fun e : Literal × Literal => e.1.display ++ ": " ++ e.2.display)
    (h.imp fun p e hpe => by rw [hpe.1, hpe.2]; rfl)
  rw [Cell.displayEntries, parts, Literal.display, Literal.displayEntries_eq]
  rfl

theorem displayWith_list {tell : Value → Except Fault Text} {vs : List Value} {xs : List Literal}
    (h : List.Forall₂ (fun v x => tell v = .ok x.display) vs xs) :
    (Cell.list vs).displayWith s tell = .ok (Literal.list xs).display := by
  rw [Cell.displayWith, mapM_ok h, Literal.display, Literal.displayAll_eq]
  rfl

theorem displayWith_tuple {tell : Value → Except Fault Text} {vs : List Value} {xs : List Literal}
    (h : List.Forall₂ (fun v x => tell v = .ok x.display) vs xs) :
    (Cell.tuple vs).displayWith s tell = .ok (Literal.tuple xs).display := by
  rw [Cell.displayWith, mapM_ok h]
  cases xs with
  | nil => rfl
  | cons x xs =>
      cases xs with
      | nil => rfl
      | cons y xs =>
          rw [Literal.display, Literal.displayAll_eq]
          · rfl
          · simp

/-- What holds a literal is shown as it. -/
theorem displayFrom_holds {v l} (h : s.Holds v l) {active} (ha : s.Around active l) (since) :
    displayFrom s active since v = .ok l.display := by
  induction h generalizing active since with
  | scalar => rw [displayFrom, Literal.display]
  | list found length hs ih =>
      have hl := Holds.list found length hs
      rw [displayFrom_guarded found rfl (ha.fresh hl)]
      refine displayWith_list (forall₂_of_zip length fun p hp => ih p hp (ha.enter hl ?_) [])
      exact (size_item (mem_of_zip hp)).1
  | tuple found length hs ih =>
      have hl := Holds.tuple found length hs
      rw [displayFrom_guarded found rfl (ha.fresh hl)]
      refine displayWith_tuple (forall₂_of_zip length fun p hp => ih p hp (ha.enter hl ?_) [])
      exact (size_item (mem_of_zip hp)).2
  | dict found length hk hv ihk ihv =>
      have hl := Holds.dict found length hk hv
      rw [displayFrom_guarded found rfl (ha.fresh hl)]
      refine displayEntries_ok (forall₂_of_zip length fun q hq =>
        ⟨ihk q hq (ha.enter hl ?_) [], ihv q hq (ha.enter hl ?_) []⟩)
      · exact (size_entry (mem_of_zip hq)).1
      · exact (size_entry (mem_of_zip hq)).2

namespace Store

theorem Holds.safeDisplay {v l} (h : s.Holds v l) : s.safeDisplay v = l.display := by
  rw [Store.safeDisplay, Store.display, displayFrom_holds h .nil]

theorem Holds.debugText {v l} (h : s.Holds v l) : s.debugText v = l.display := by
  have plain : s.listLike? v = none := by
    cases h with
    | scalar => rfl
    | list found => simp [listLike?, found]
    | tuple found => simp [listLike?, found, Cell.listItems?]
    | dict found => simp [listLike?, found, Cell.listItems?]
  rw [Store.debugText, plain, h.safeDisplay]

end Store

/-! ## Over several lines -/

theorem padding_spacers (indent : Int) (level : Nat) :
    ∀ c ∈ padding indent level, Layout.isSpacer c := by
  intro c hc
  rw [(List.mem_replicate.mp hc).2]
  rfl

theorem expandFrom_shape {indent level seen a c shape} (ha : s[a]? = some c)
    (hc : c.shape? s = some shape) (fresh : a ∉ seen) :
    expandFrom s indent level seen (.ref a) =
      if shape.entries.isEmpty then shape.empty
      else shape.opening ++ ((shape.entries.flatMap fun e => '\n' ::
          (padding indent (level + 1) ++ e.1 ++
            expandFrom s indent (level + 1) (a :: seen) e.2 ++ [','])) ++
        '\n' :: (padding indent level ++ shape.closing)) := by
  rw [expandFrom]
  split
  · rename_i h
    cases ha.symm.trans h
  · rename_i h
    cases ha.symm.trans h
    split
    · rename_i h
      cases hc.symm.trans h
    · rename_i h
      cases hc.symm.trans h
      rw [dif_neg fresh]
      split
      · rfl
      · rw [Literal.joinWith_lines, List.flatMap_map, List.append_assoc]
        rfl

theorem expandFrom_items {indent level seen a c vs xs} (opening closing : Char)
    (ha : s[a]? = some c) (hc : c.shape? s = some (.ofItems [opening] [closing] vs))
    (fresh : a ∉ seen)
    (h : List.Forall₂ (fun v x =>
      Literal.Denotes (expandFrom s indent (level + 1) (a :: seen) v) x) vs xs) :
    ∃ body, expandFrom s indent level seen (.ref a) = opening :: (body ++ [closing]) ∧
      Literal.DenotesItems body xs true := by
  rw [expandFrom_shape ha hc fresh]
  cases h with
  | nil => exact ⟨[], rfl, .none⟩
  | @cons v x vs xs hv hs =>
      have lines := Literal.DenotesItems.lines (padding_spacers indent (level + 1))
        (padding_spacers indent level) (List.forall₂_map_left_iff.mpr (.cons hv hs))
      refine ⟨_, ?_, lines⟩
      simp [Shape.ofItems, List.flatMap_map]

theorem expandFrom_entries {indent level seen a ps es} (ha : s[a]? = some (.map .plain ps))
    (fresh : a ∉ seen)
    (h : List.Forall₂ (fun p e => Literal.Denotes (s.safeDisplay p.1) e.1 ∧
      Literal.Denotes (expandFrom s indent (level + 1) (a :: seen) p.2) e.2) ps es) :
    ∃ body, expandFrom s indent level seen (.ref a) = '\x7b' :: (body ++ ['\x7d']) ∧
      Literal.DenotesEntries body es := by
  rw [expandFrom_shape ha rfl fresh]
  cases h with
  | nil => exact ⟨[], rfl, .none⟩
  | @cons p e ps es hp hs =>
      have shown : List.Forall₂ (fun p e => Literal.Denotes p.1 e.1 ∧ Literal.Denotes p.2 e.2)
          ((p :: ps).map fun p =>
            (s.safeDisplay p.1, expandFrom s indent (level + 1) (a :: seen) p.2)) (e :: es) :=
        List.forall₂_map_left_iff.mpr (.cons hp hs)
      have lines := Literal.DenotesEntries.lines (padding_spacers indent (level + 1))
        (padding_spacers indent level) shown
      refine ⟨_, ?_, lines⟩
      simp [Shape.ofEntries, Cell.entries?, List.flatMap_map]

/-- What holds a plain literal is expanded to text that denotes it. -/
theorem expandFrom_holds {v l} (h : s.Holds v l) (hp : Literal.Plain l) (indent : Int)
    (level : Nat) {seen} (ha : s.Around seen l) :
    Literal.Denotes (expandFrom s indent level seen v) l := by
  induction h generalizing level seen with
  | scalar =>
      rw [expandFrom, Holds.scalar.safeDisplay]
      · exact hp.denotes
      · simp
  | list found length hs ih =>
      have hl := Holds.list found length hs
      cases hp with
      | list plain =>
          obtain ⟨body, text, items⟩ := expandFrom_items '[' ']' found rfl (ha.fresh hl)
            (forall₂_of_zip length fun p hp =>
              ih p hp (plain _ (mem_of_zip hp)) (level + 1)
                (ha.enter hl (size_item (mem_of_zip hp)).1))
          rw [text]
          exact items.list
  | tuple found length hs ih =>
      have hl := Holds.tuple found length hs
      cases hp with
      | tuple plain =>
          obtain ⟨body, text, items⟩ := expandFrom_items '(' ')' found rfl (ha.fresh hl)
            (forall₂_of_zip length fun p hp =>
              ih p hp (plain _ (mem_of_zip hp)) (level + 1)
                (ha.enter hl (size_item (mem_of_zip hp)).2))
          rw [text]
          exact items.tuple (.inl rfl)
  | @dict a ps es found length hk hv ihk ihv =>
      have hl := Holds.dict found length hk hv
      cases hp with
      | dict keyed plain₁ plain₂ =>
          have keys : ∀ q ∈ ps.zip es, Literal.Denotes (s.safeDisplay q.1.1) q.2.1 := by
            intro q hq
            rw [(hk q hq).safeDisplay]
            exact (plain₁ _ (mem_of_zip hq)).denotes
          obtain ⟨body, text, entries⟩ := expandFrom_entries found (ha.fresh hl)
            (forall₂_of_zip length fun q hq => ⟨keys q hq,
              ihv q hq (plain₂ _ (mem_of_zip hq)) (level + 1)
                (ha.enter hl (size_entry (mem_of_zip hq)).2)⟩)
          rw [text]
          exact entries.dict keyed

end Stencil

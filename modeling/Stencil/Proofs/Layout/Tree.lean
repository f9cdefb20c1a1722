import Stencil.Proofs.Literal.Inert
import Stencil.Proofs.Value.Shown

/-! # Breaking lines by the tree

The pass that breaks lines by nesting knows characters only. On the text of nested
lists it does what a recursion over the tree would do: inner brackets stand on
lines of their own, and a list that follows another element starts a line, while a
scalar stays on the line it is on.
-/

namespace Stencil

open Layout Literal

namespace Literal

/-- Lists of lists and scalars, to any depth and of any shape. -/
inductive Nested : Literal → Prop where
  | scalar (s : Scalar) : Nested (.scalar s)
  | list {xs : List Literal} : (∀ x ∈ xs, Nested x) → Nested (.list xs)

end Literal

namespace Layout

/-- A line break with the padding of a level. -/
def lineAt (indent level : Nat) : Text := '\n' :: List.replicate (indent * level) ' '

/-- The line break inside of the brackets of a list at a level; the outermost one has none. -/
def innerBreak (indent level : Nat) : Text :=
  if level > 1 then lineAt indent (level - 1) else []

/-- What stands in front of an element that is not the first: a list starts a line. -/
def leading (indent level : Nat) : Literal → Text
  | .list _ => ',' :: (lineAt indent level ++ [' '])
  | _ => ", "

mutual
/-- A literal at a level, with lines broken by its tree. -/
def treeText (indent level : Nat) : Literal → Text
  | .list xs =>
      '[' :: (innerBreak indent level ++ treeTexts indent level xs ++ innerBreak indent level ++
        [']'])
  | x => x.display

/-- The elements of a list at a level. -/
def treeTexts (indent level : Nat) : List Literal → Text
  | [] => []
  | [x] => treeText indent (level + 1) x
  | x :: y :: xs =>
      treeText indent (level + 1) x ++ leading indent level y ++ treeTexts indent level (y :: xs)
end

variable {indent level : Nat} {t rest : Text}

theorem breakTo_nat (indent level : Nat) : breakTo indent level = lineAt indent level := by
  have width : ((indent : Int) * (level : Int)).toNat = indent * level := by
    rw [← Int.natCast_mul, Int.toNat_natCast]
  rw [breakTo, lineAt, width]

/-! ## Characters -/

theorem nestedFrom_plain {c : Char} (quote : isQuote c = false) (seam : isSeam c = false)
    (level : Int) (t : Text) :
    nestedFrom indent level .outside (c :: t) = c :: nestedFrom indent level .outside t := by
  obtain ⟨opening, closing, comma⟩ := not_seam seam
  simp [nestedFrom, Place.quotes, quote, opening, closing, comma, after_outside quote]

theorem nestedFrom_inside {q : Char} (mark : isQuote q) (h : Inner q t) (level : Int)
    (rest : Text) : nestedFrom indent level (.inside q false) (t ++ q :: rest) =
      t ++ q :: nestedFrom indent level .outside rest := by
  induction h with
  | nil => simp [nestedFrom, Place.quotes, Place.after, quote_not_backslash mark]
  | plain other open_ _ _ ih => simp [nestedFrom, Place.quotes, Place.after, other, open_, ih]
  | escape _ ih => simp [nestedFrom, Place.quotes, Place.after, ih]

/-- Inert text is passed over. -/
theorem nestedFrom_inert (h : Inert t) (level : Int) (rest : Text) :
    nestedFrom indent level .outside (t ++ rest) =
      t ++ nestedFrom indent level .outside rest := by
  induction h with
  | nil => rfl
  | plain quote seam _ ih =>
      rw [List.cons_append, nestedFrom_plain quote seam, ih, List.cons_append]
  | @quoted q body t mark inner _ ih =>
      have opening (u : Text) : nestedFrom indent level .outside (q :: u) =
          q :: nestedFrom indent level (.inside q false) u := by
        simp [nestedFrom, Place.quotes, Place.after, mark]
      rw [List.cons_append, List.append_assoc, List.cons_append, opening,
        nestedFrom_inside mark inner, ih]
      simp

theorem nestedFrom_open (level : Nat) (t : Text) :
    nestedFrom indent level .outside ('[' :: t) =
      '[' :: (innerBreak indent (level + 1) ++ nestedFrom indent (level + 1 : Nat) .outside t) := by
  have inner : ((level : Int) + 1 > 1) ↔ level + 1 > 1 := by omega
  simp [nestedFrom, Place.quotes, Place.after, isQuote, innerBreak, breakTo_nat, inner]

theorem nestedFrom_close (level : Nat) (t : Text) :
    nestedFrom indent (level + 1 : Nat) .outside (']' :: t) =
      innerBreak indent (level + 1) ++ ']' :: nestedFrom indent level .outside t := by
  have below : ((level + 1 : Nat) : Int) - 1 = level := by omega
  have inner : ((level : Int) ≥ 1) ↔ level + 1 > 1 := by omega
  simp only [nestedFrom, below, breakTo_nat, inner, innerBreak, Nat.add_sub_cancel]
  rfl

theorem nestedFrom_comma (level : Nat) (t : Text) :
    nestedFrom indent level .outside (',' :: ' ' :: t) =
      ',' :: ((if opensNext (' ' :: t) then lineAt indent level else []) ++
        ' ' :: nestedFrom indent level .outside t) := by
  have here : max (level : Int) 0 = level := by omega
  have space : nestedFrom indent level .outside (' ' :: t) =
      ' ' :: nestedFrom indent level .outside t := nestedFrom_plain rfl rfl level t
  have step : nestedFrom indent level .outside (',' :: ' ' :: t) =
      ',' :: ((if opensNext (' ' :: t) then breakTo indent (max (level : Int) 0) else []) ++
        nestedFrom indent level .outside (' ' :: t)) := rfl
  rw [step, here, breakTo_nat, space]

/-! ## Lists -/

/-- What the pass looks for behind a comma tells lists from scalars. -/
theorem leading_eq (indent level : Nat) {x : Literal} (h : Nested x) (rest : Text) :
    leading indent level x = ',' ::
      ((if opensNext (' ' :: (x.display ++ rest)) then lineAt indent level else []) ++ [' ']) := by
  cases h with
  | scalar s =>
      obtain ⟨c, u, shown, seam, visible⟩ := (atom_scalar s).first
      have other : c ≠ '[' := by
        rintro rfl
        cases seam
      have stays : opensNext (' ' :: (s.display ++ rest)) = false := by
        have space : isBlank ' ' = true := rfl
        simp [opensNext, Text.trimStart, shown, space, visible, other]
      rw [Literal.display, stays]
      rfl
  | list => rfl

/-- Elements that are laid out one by one are laid out in a row. -/
theorem nestedFrom_displayAll {xs : List Literal} {level : Nat} (nested : ∀ x ∈ xs, Nested x)
    (each : ∀ x ∈ xs, ∀ rest, nestedFrom indent level .outside (x.display ++ rest) =
      treeText indent (level + 1) x ++ nestedFrom indent level .outside rest) (rest : Text) :
    nestedFrom indent level .outside (displayAll xs ++ rest) =
      treeTexts indent level xs ++ nestedFrom indent level .outside rest := by
  induction xs with
  | nil => rfl
  | cons x xs ih =>
      obtain ⟨first, others⟩ := List.forall_mem_cons.mp each
      obtain ⟨-, nested⟩ := List.forall_mem_cons.mp nested
      cases xs with
      | nil => exact first rest
      | cons y ys =>
          obtain ⟨u, starts⟩ : ∃ u, displayAll (y :: ys) ++ rest = y.display ++ u := by
            cases ys with
            | nil => exact ⟨rest, rfl⟩
            | cons z zs =>
                exact ⟨", " ++ (displayAll (z :: zs) ++ rest), by simp [displayAll]⟩
          have seam := leading_eq indent level (nested y List.mem_cons_self) u
          calc nestedFrom indent level .outside (displayAll (x :: y :: ys) ++ rest)
            _ = nestedFrom indent level .outside
                  (x.display ++ ',' :: ' ' :: (displayAll (y :: ys) ++ rest)) := by
                simp [displayAll]
            _ = treeText indent (level + 1) x ++ (leading indent level y ++
                  nestedFrom indent level .outside (displayAll (y :: ys) ++ rest)) := by
                rw [first, nestedFrom_comma, starts, seam]
                simp
            _ = treeTexts indent level (x :: y :: ys) ++
                  nestedFrom indent level .outside rest := by
                rw [ih nested others, treeTexts]
                simp

/-- On the text of nested lists the pass gives the layout of the tree, whatever follows. -/
theorem nestedFrom_display {x : Literal} (h : Nested x) (level : Nat) (rest : Text) :
    nestedFrom indent level .outside (x.display ++ rest) =
      treeText indent (level + 1) x ++ nestedFrom indent level .outside rest := by
  induction h generalizing level rest with
  | scalar s => exact nestedFrom_inert (atom_scalar s).inert level rest
  | @list xs nested ih =>
      have items := nestedFrom_displayAll nested fun x hx => ih x hx (level + 1)
      rw [Literal.display, treeText]
      simp only [List.cons_append, List.append_assoc, List.nil_append]
      rw [nestedFrom_open, items, nestedFrom_close]

end Layout

/-- The structural text of nested lists is laid out as their tree, with every padding. -/
theorem formatNested_tree {s : Store} {v : Value} {l : Literal} (h : s.Holds v l)
    (nested : Literal.Nested l) (indent : Nat) :
    ∃ t, s.display v = .ok t ∧ formatNested t indent = treeText indent 1 l := by
  refine ⟨l.display, displayFrom_holds h .nil [], ?_⟩
  have whole : nestedFrom indent (0 : Nat) .outside (l.display ++ []) =
      treeText indent 1 l ++ nestedFrom indent (0 : Nat) .outside [] := nestedFrom_display nested 0 []
  have done : nestedFrom indent (0 : Nat) .outside [] = [] := rfl
  rw [List.append_nil, done, List.append_nil] at whole
  exact whole

/-- Text that looks like a seam, an empty list in three places, and a scalar behind a list. -/
theorem formatNested_tree_shared :
    let s : Store :=
      [.list [.text "], [", .ref 1, .ref 2, .int (-2)], .list [], .list [.ref 1, .ref 1]]
    let empty : Literal := .list []
    let l : Literal :=
      .list [.scalar (.text "], ["), empty, .list [empty, empty], .scalar (.int (-2))]
    let shown : Text :=
      "['], [',\n   [\n  \n  ],\n   [\n  [\n    \n    ],\n     [\n    \n    ]\n  ], -2]"
    s.Holds (.ref 0) l ∧ Literal.Nested l ∧
      ∃ t, s.display (.ref 0) = .ok t ∧ formatNested t 2 = shown := by
  intro s empty l shown
  have one : s.Holds (.ref 1) empty := .list rfl rfl (by simp)
  have pair : s.Holds (.ref 2) (.list [empty, empty]) := .list rfl rfl (by simpa using one)
  have holds : s.Holds (.ref 0) l :=
    .list rfl rfl (by simpa using ⟨Store.Holds.scalar, one, pair, Store.Holds.scalar⟩)
  have flat : Literal.Nested empty := .list (by simp)
  have nested : Literal.Nested l := by
    apply Literal.Nested.list
    simpa [l] using ⟨Literal.Nested.scalar _, flat, .list (by simpa using flat), .scalar _⟩
  exact ⟨holds, nested, formatNested_tree holds nested 2⟩

end Stencil

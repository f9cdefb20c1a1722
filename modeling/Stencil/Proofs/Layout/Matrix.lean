import Stencil.Layout.Container
import Stencil.Proofs.Layout.Depth
import Stencil.Proofs.Layout.Piecewise
import Stencil.Proofs.Value.Shown

/-! # Matrices by their rows

A matrix of two to four dimensions is laid out by a handful of replacements that
know nothing of it. Its text is rows with seams between them, each seam as deep as
the lists that end and begin there; rows are passed over and each seam is replaced
by itself, so that the layout is the one a recursion over the lists would give.
-/

namespace Stencil

open Layout Literal

namespace Literal

/-- Lists of lists down to rows, which are lists of scalars. Rows may be of any length and the
    lists above them of any but zero. -/
inductive Matrix : Nat → Literal → Prop where
  | row {xs : List Literal} : (∀ x ∈ xs, ∃ s, x = .scalar s) → Matrix 1 (.list xs)
  | lists {d : Nat} {xs : List Literal} : xs ≠ [] → (∀ x ∈ xs, Matrix d x) →
      Matrix (d + 1) (.list xs)

/-- A matrix of one dimension is a row: there are no lists of matrices of none. -/
theorem Matrix.items {l : Literal} (h : Matrix 1 l) :
    ∃ xs, l = .list xs ∧ ∀ x ∈ xs, ∃ s, x = .scalar s := by
  cases h with
  | @row xs scalars => exact ⟨xs, rfl, scalars⟩
  | @lists _ xs nonempty all =>
      obtain ⟨x, hx⟩ := List.exists_mem_of_ne_nil xs nonempty
      cases all x hx

theorem listDepthAll_same {d : Nat} {xs : List Literal} (nonempty : xs ≠ [])
    (each : ∀ x ∈ xs, x.listDepth = d) : listDepthAll xs = d := by
  induction xs with
  | nil => exact absurd rfl nonempty
  | cons x xs ih =>
      obtain ⟨first, others⟩ := List.forall_mem_cons.mp each
      cases xs with
      | nil => rw [listDepthAll, listDepthAll, first, Nat.max_zero]
      | cons y ys => rw [listDepthAll, first, ih (List.cons_ne_nil y ys) others, Nat.max_self]

theorem Matrix.listDepth {d : Nat} {l : Literal} (h : Matrix d l) : l.listDepth = d := by
  induction h with
  | @row xs scalars =>
      have flat : ∀ x ∈ xs, x.listDepth = 0 := by
        intro x hx
        obtain ⟨s, rfl⟩ := scalars x hx
        rfl
      cases xs with
      | nil => rfl
      | cons x xs => rw [Literal.listDepth, listDepthAll_same (List.cons_ne_nil x xs) flat]
  | lists nonempty _ ih => rw [Literal.listDepth, listDepthAll_same nonempty ih]

end Literal

namespace Layout

/-- A line break with the padding of a level. -/
def gap (level : Nat) : Text := '\n' :: List.replicate (4 * level) ' '

/-- A literal at a level, the lists above its rows opened on lines of their own. -/
def laidOut : (level above : Nat) → Literal → Text
  | level, above + 1, .list xs =>
      '[' :: (gap level ++ Text.joinWith (',' :: gap level) (xs.map (laidOut (level + 1) above)) ++
        gap (level - 1) ++ [']'])
  | _, _, l => l.display

/-! ## Rows and seams -/

/-- The rows of a matrix without its outer brackets, with seams of each depth between them. -/
def rowsWith (seam : Nat → Text) : (above : Nat) → Literal → Text
  | above + 1, .list xs => Text.joinWith (seam (above + 1)) (xs.map (rowsWith seam above))
  | 0, .list xs => displayAll xs
  | _, l => l.display

/-- The seam of a matrix on one line. -/
def plainSeam (depth : Nat) : Text :=
  List.replicate depth ']' ++ (", " ++ List.replicate depth '[')

def opening (level : Nat) : (above : Nat) → Text
  | 0 => ['[']
  | above + 1 => '[' :: (gap level ++ opening (level + 1) above)

def closing (level : Nat) : (above : Nat) → Text
  | 0 => [']']
  | above + 1 => closing (level + 1) above ++ (gap (level - 1) ++ [']'])

/-- The seam of a matrix over several lines, its rows being at a level. -/
def laidSeam (rows : Nat) : (depth : Nat) → Text
  | 0 => []
  | depth + 1 =>
      closing (rows - depth) depth ++
        (',' :: gap (rows - (depth + 1)) ++ opening (rows - depth) depth)

/-- What all parts begin and end with goes to the ends and the separators. -/
theorem joinWith_wrapped {α : Type} {xs : List α} (nonempty : xs ≠ []) (sep a b : Text)
    (f : α → Text) : Text.joinWith sep (xs.map fun x => a ++ (f x ++ b)) =
      a ++ (Text.joinWith (b ++ (sep ++ a)) (xs.map f) ++ b) := by
  induction xs with
  | nil => exact absurd rfl nonempty
  | cons x xs ih =>
      cases xs with
      | nil => rfl
      | cons y ys =>
          have rest := ih (List.cons_ne_nil y ys)
          simp only [List.map_cons, Text.joinWith] at rest ⊢
          rw [rest]
          simp

theorem display_rows {above : Nat} {l : Literal} (h : Matrix (above + 1) l) :
    l.display = List.replicate (above + 1) '[' ++
      (rowsWith plainSeam above l ++ List.replicate (above + 1) ']') := by
  induction above generalizing l with
  | zero =>
      obtain ⟨xs, rfl, -⟩ := h.items
      rw [Literal.display]
      rfl
  | succ above ih =>
      cases h with
      | @lists _ xs nonempty all =>
          have parts : xs.map display = xs.map fun x => List.replicate (above + 1) '[' ++
              (rowsWith plainSeam above x ++ List.replicate (above + 1) ']') :=
            List.map_congr_left fun x hx => ih (all x hx)
          have openings : List.replicate (above + 1 + 1) '[' =
              '[' :: List.replicate (above + 1) '[' := rfl
          have closings : List.replicate (above + 1 + 1) ']' =
              List.replicate (above + 1) ']' ++ [']'] := List.replicate_succ'
          rw [Literal.display, displayAll_eq, parts, joinWith_wrapped nonempty, openings, closings,
            rowsWith]
          simp only [plainSeam, List.cons_append, List.append_assoc]

theorem laidOut_rows {above : Nat} {l : Literal} (h : Matrix (above + 1) l) (level : Nat) :
    laidOut level above l = opening level above ++
      (rowsWith (laidSeam (level + above)) above l ++ closing level above) := by
  induction above generalizing l level with
  | zero =>
      obtain ⟨xs, rfl, -⟩ := h.items
      rfl
  | succ above ih =>
      cases h with
      | @lists _ xs nonempty all =>
          have rows : level + 1 + above = level + (above + 1) := by omega
          have parts : xs.map (laidOut (level + 1) above) = xs.map fun x =>
              opening (level + 1) above ++ (rowsWith (laidSeam (level + (above + 1))) above x ++
                closing (level + 1) above) := by
            apply List.map_congr_left
            intro x hx
            rw [← rows]
            exact ih (all x hx) (level + 1)
          have seam : laidSeam (level + (above + 1)) (above + 1) =
              closing (level + 1) above ++ (',' :: gap level ++ opening (level + 1) above) := by
            have inner : level + (above + 1) - above = level + 1 := by omega
            have outer : level + (above + 1) - (above + 1) = level := by omega
            rw [laidSeam, inner, outer]
          rw [laidOut, parts, joinWith_wrapped nonempty, rowsWith, seam, opening, closing]
          simp only [List.cons_append, List.append_assoc]

/-! ## Replacing the seams -/

/-- A text that does not start with an opening bracket. -/
def Unopened (t : Text) : Prop := ∀ c ∈ t.head?, c ≠ '['

theorem plainSeam_unquoted (depth : Nat) : ∀ c ∈ plainSeam depth, isQuote c = false := by
  have comma : ∀ c ∈ (", " : Text), isQuote c = false := List.all_iff_forall_prop.mp (by decide)
  intro c hc
  simp only [plainSeam, List.mem_append, List.mem_replicate] at hc
  obtain ⟨-, rfl⟩ | hc | ⟨-, rfl⟩ := hc
  · rfl
  · exact comma c hc
  · rfl

/-- A piece of text that the replacements change by itself, wherever no opening bracket follows. -/
structure Piece (rs : Replacements) (old new : Text) : Prop where
  replaced : ∀ t, Unopened t → replaceUnquoted rs (old ++ t) = new ++ replaceUnquoted rs t
  unopened : ∀ t, Unopened t → Unopened (old ++ t)

namespace Piece

variable {rs : Replacements} {old new old' new' : Text}

theorem nil : Piece rs [] [] := ⟨fun _ _ => rfl, fun _ h => h⟩

theorem append (h : Piece rs old new) (k : Piece rs old' new') :
    Piece rs (old ++ old') (new ++ new') where
  replaced t ht := by
    rw [List.append_assoc, h.replaced _ (k.unopened t ht), k.replaced t ht, List.append_assoc]
  unopened t ht := by
    rw [List.append_assoc]
    exact h.unopened _ (k.unopened t ht)

theorem joined {α : Type} {xs : List α} {f g : α → Text} (each : ∀ x ∈ xs, Piece rs (f x) (g x))
    (sep : Piece rs old new) :
    Piece rs (Text.joinWith old (xs.map f)) (Text.joinWith new (xs.map g)) := by
  induction xs with
  | nil => exact nil
  | cons x xs ih =>
      obtain ⟨first, others⟩ := List.forall_mem_cons.mp each
      cases xs with
      | nil => exact first
      | cons y ys => exact (first.append sep).append (ih others)

variable (hrs : ∀ r ∈ rs, isJoint r)
include hrs

theorem atom {t : Text} (h : Atom t) : Piece rs t t where
  replaced u _ := replaceUnquoted_inert hrs h.inert u
  unopened u _ := by
    obtain ⟨c, v, rfl, seam, -⟩ := h.first
    rintro d ⟨⟩ rfl
    cases seam

theorem comma : Piece rs ", " ", " := by
  refine ⟨fun t _ => ?_, fun t _ => ?_⟩
  · change replaceUnquoted rs (',' :: ' ' :: t) = ',' :: ' ' :: replaceUnquoted rs t
    rw [replaceUnquoted_plain hrs rfl (by decide), replaceUnquoted_plain hrs rfl (by decide)]
  · rintro c ⟨⟩
    decide

theorem seam (depth : Nat) (positive : 1 ≤ depth) :
    Piece rs (plainSeam depth) (replaceEach rs (plainSeam depth)) where
  replaced t ht := by
    apply replaceUnquoted_cut hrs (plainSeam_unquoted depth) _ ht
    intro c hc
    obtain ⟨n, rfl⟩ := Nat.exists_eq_succ_of_ne_zero (Nat.ne_of_gt positive)
    rw [plainSeam, List.getLast?_append, List.getLast?_append, List.getLast?_replicate] at hc
    cases hc
    rfl
  unopened t _ := by
    obtain ⟨n, rfl⟩ := Nat.exists_eq_succ_of_ne_zero (Nat.ne_of_gt positive)
    rintro c ⟨⟩
    decide

theorem rows {above : Nat} {l : Literal} {shown : Nat → Text} (h : Matrix (above + 1) l)
    (seams : ∀ j, 1 ≤ j → j ≤ above → replaceEach rs (plainSeam j) = shown j) :
    Piece rs (rowsWith plainSeam above l) (rowsWith shown above l) := by
  induction above generalizing l with
  | zero =>
      obtain ⟨xs, rfl, scalars⟩ := h.items
      change Piece rs (displayAll xs) (displayAll xs)
      rw [displayAll_eq]
      apply joined _ (comma hrs)
      intro x hx
      obtain ⟨s, rfl⟩ := scalars x hx
      exact atom hrs (atom_scalar s)
  | succ above ih =>
      cases h with
      | @lists _ xs nonempty all =>
          have inner : ∀ j, 1 ≤ j → j ≤ above → replaceEach rs (plainSeam j) = shown j :=
            fun j low high => seams j low (by omega)
          have between := seam hrs (above + 1) (by omega)
          rw [seams (above + 1) (by omega) (Nat.le_refl _)] at between
          exact joined (fun x hx => ih (all x hx) inner) between

end Piece

/-! ## The tables -/

/-- Replacements that lay out the brackets around all rows and the seams between them. -/
structure LaysOut (rs : Replacements) (above : Nat) : Prop where
  joint : ∀ r ∈ rs, isJoint r
  opens : replaceEach rs (List.replicate (above + 1) '[') = opening 1 above
  closes : replaceEach rs (List.replicate (above + 1) ']') = closing 1 above
  seams : ∀ j ∈ List.range' 1 above, replaceEach rs (plainSeam j) = laidSeam (1 + above) j

theorem exists_laysOut {above : Nat} (h : above ∈ [1, 2, 3]) :
    ∃ rs, arrayReplacements? ((above + 1 : Nat) : Int) = some rs ∧ LaysOut rs above := by
  simp only [List.mem_cons, List.not_mem_nil, or_false] at h
  obtain rfl | rfl | rfl := h
  · exact ⟨_, rfl, by decide, by decide, by decide, by decide⟩
  · exact ⟨_, rfl, by decide, by decide, by decide, by decide⟩
  · exact ⟨_, rfl, by decide, by decide, by decide, by decide⟩

theorem layArray_display {above : Nat} {l : Literal} (h : Matrix (above + 1) l)
    (few : above ∈ [1, 2, 3]) : layArray l.display (above + 1 : Nat) = laidOut 1 above l := by
  obtain ⟨rs, table, lays⟩ := exists_laysOut few
  have positive : 1 ≤ above := by
    simp only [List.mem_cons, List.not_mem_nil, or_false] at few
    omega
  have deep : ¬ ((above + 1 : Nat) : Int) ≤ 1 := by omega
  have seams : ∀ j, 1 ≤ j → j ≤ above → replaceEach rs (plainSeam j) = laidSeam (1 + above) j :=
    fun j low high => lays.seams j (List.mem_range'_1.mpr ⟨low, by omega⟩)
  have rows := Piece.rows lays.joint h seams
  have brackets (c : Char) (bracket : isQuote c = false) :
      ∀ d ∈ List.replicate (above + 1) c, isQuote d = false := by
    intro d hd
    rw [List.eq_of_mem_replicate hd]
    exact bracket
  have ends : Unopened (List.replicate (above + 1) ']') := by
    rintro c ⟨⟩
    decide
  have last : ∀ c ∈ (List.replicate (above + 1) '[').getLast?, c = '[' := by
    intro c hc
    exact List.eq_of_mem_replicate (List.mem_of_getLast? hc)
  calc layArray l.display (above + 1 : Nat)
    _ = replaceUnquoted rs l.display := by
        rw [layArray, if_neg deep, table]
    _ = replaceEach rs (List.replicate (above + 1) '[') ++
          (rowsWith (laidSeam (1 + above)) above l ++
            replaceEach rs (List.replicate (above + 1) ']')) := by
        rw [display_rows h, replaceUnquoted_cut lays.joint (brackets '[' rfl) last
          (rows.unopened _ ends), rows.replaced _ ends,
          replaceUnquoted_whole lays.joint (brackets ']' rfl)]
    _ = laidOut 1 above l := by
        rw [lays.opens, lays.closes, ← laidOut_rows h 1]

end Layout

/-- A matrix of two to four dimensions is laid out by its lists, each row on a line of its own, and
    there is nothing to warn about. -/
theorem layOut_matrix {s : Store} {v : Value} {l : Literal} {d : Nat} (h : s.Holds v l)
    (matrix : Literal.Matrix d l) (low : 2 ≤ d) (high : d ≤ 4) :
    s.layOut v = (laidOut 1 (d - 1) l, none) := by
  obtain ⟨above, rfl⟩ : ∃ above, d = above + 1 := ⟨d - 1, by omega⟩
  have few : above ∈ [1, 2, 3] := by
    simp only [List.mem_cons, List.not_mem_nil, or_false]
    omega
  have profile := profile_display l
  have depth : nestingDepth l.display = above + 1 := by
    rw [nestingDepth, profile]
    exact matrix.listDepth
  have balanced : imbalance? l.display = none := by
    rw [imbalance?, profile]
    rfl
  have array : s.layOut v = formatArray l.display none := by
    rw [Store.layOut, h.debugText]
    cases matrix with
    | row => rw [Literal.display]; rfl
    | lists => rw [Literal.display]; rfl
  rw [array, formatArray, balanced, Option.getD_none, depth, layArray_display matrix few,
    Nat.add_sub_cancel]

/-- Three dimensions, with a row in two places, an empty row and text that looks like a seam. -/
theorem layOut_matrix_seams :
    let s : Store := [.list [.ref 1, .ref 2], .list [.ref 3, .ref 4], .list [.ref 3],
      .list [.text "]], [[", .int 1], .list []]
    let row : Literal := .list [.scalar (.text "]], [["), .scalar (.int 1)]
    let l : Literal := .list [.list [row, .list []], .list [row]]
    let shown : Text := "[\n    [\n        [']], [[', 1],\n        []\n    ],\n" ++
      "    [\n        [']], [[', 1]\n    ]\n]"
    s.Holds (.ref 0) l ∧ Literal.Matrix 3 l ∧ s.layOut (.ref 0) = (shown, none) := by
  intro s row l shown
  have held : s.Holds (.ref 3) row :=
    .list rfl rfl (by simpa using ⟨Store.Holds.scalar, Store.Holds.scalar⟩)
  have none : s.Holds (.ref 4) (.list []) := .list rfl rfl (by simp)
  have two : s.Holds (.ref 1) (.list [row, .list []]) :=
    .list rfl rfl (by simpa using ⟨held, none⟩)
  have one : s.Holds (.ref 2) (.list [row]) := .list rfl rfl (by simpa using held)
  have holds : s.Holds (.ref 0) l := .list rfl rfl (by simpa using ⟨two, one⟩)
  have scalars : Literal.Matrix 1 row := .row (by simp)
  have empty : Literal.Matrix 1 (.list []) := .row (by simp)
  have matrix : Literal.Matrix 3 l := by
    apply Literal.Matrix.lists (by simp)
    simpa using ⟨Literal.Matrix.lists (by simp) (by simpa using ⟨scalars, empty⟩),
      Literal.Matrix.lists (by simp) (by simpa using scalars)⟩
  exact ⟨holds, matrix, layOut_matrix holds matrix (by decide) (by decide)⟩

end Stencil

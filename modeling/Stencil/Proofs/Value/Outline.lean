import Stencil.Value.Expand

/-! # Outlines of values

What a value over several lines shows, apart from padding and line breaks: a tree
with a node for every occurrence of a value that is shown. The nodes are described
by the accesses that lead to them from the root, through the cells alone. Nothing
is said there of how the tree is made, so that a container is known by its address
and what lies around an occurrence by the path to it.
-/

namespace Stencil

/-- What is shown of a value. -/
inductive Outline where
  /-- A value on one line. -/
  | line (text : Text)
  /-- A container that lies around itself. -/
  | dots (opening closing : Text)
  /-- A container without entries. -/
  | empty (text : Text)
  /-- A container with its entries behind their labels. -/
  | block (opening closing : Text) (entries : List (Text × Outline))

namespace Outline

/-- The text of an outline at a level. -/
def text (indent : Int) (level : Nat) : Outline → Text
  | line t => t
  | dots opening closing => opening ++ "..." ++ closing
  | empty t => t
  | block opening closing entries =>
      let lines := entries.map fun e =>
        padding indent (level + 1) ++ e.1 ++ text indent (level + 1) e.2 ++ ","
      Text.joinWith "\n" (opening :: lines ++ [padding indent level ++ closing])
termination_by o => sizeOf o
decreasing_by
  rename_i h
  have := List.sizeOf_lt_of_mem h
  obtain ⟨l, o⟩ := e
  simp only [Prod.mk.sizeOf_spec, block.sizeOf_spec] at this ⊢
  omega

/-- The outline at the end of a path of entries. -/
def at? : Outline → List Nat → Option Outline
  | o, [] => some o
  | block _ _ entries, i :: path => entries[i]?.bind fun e => e.2.at? path
  | _, _ :: _ => none

end Outline

namespace Store

/-- The container that a value is: its address and its shape. -/
def container? (s : Store) : Value → Option (Address × Shape)
  | .ref a => (s[a]?.bind fun c => c.shape? s).map fun shape => (a, shape)
  | _ => none

/-- The value at the end of a path of element accesses. -/
def follow (s : Store) : Value → List Nat → Option Value
  | v, [] => some v
  | v, i :: path =>
      (s.container? v).bind fun c => c.2.entries[i]?.bind fun e => follow s e.2 path

/-- Whether the cell at an address is a proper ancestor of the occurrence at the end of a path. -/
def Encloses (s : Store) (root : Value) (path : List Nat) (a : Address) : Prop :=
  ∃ q, q <+: path ∧ q ≠ path ∧ s.follow root q = some (.ref a)

/-- What is shown of a value at an occurrence with some cells around it. -/
inductive Presents (s : Store) (around : Address → Prop) : Value → Outline → Prop where
  | line {v} : s.container? v = none → Presents s around v (.line (s.safeDisplay v))
  | dots {v a shape} : s.container? v = some (a, shape) → around a →
      Presents s around v (.dots shape.opening shape.closing)
  | empty {v a shape} : s.container? v = some (a, shape) → ¬ around a → shape.entries = [] →
      Presents s around v (.empty shape.empty)
  | block {v a shape entries} : s.container? v = some (a, shape) → ¬ around a →
      shape.entries ≠ [] → entries.map (·.1) = shape.entries.map (·.1) →
      Presents s around v (.block shape.opening shape.closing entries)

/-- An outline that unfolds a value: along each path of element accesses it goes down to the first
    container that is its own ancestor, which it shows by dots, and shows all else in full. -/
structure Unfolds (s : Store) (root : Value) (o : Outline) : Prop where
  presents : ∀ path node, o.at? path = some node →
    ∃ v, s.follow root path = some v ∧ s.Presents (s.Encloses root path) v node
  dots_iff : ∀ path node v a shape, o.at? path = some node → s.follow root path = some v →
    s.container? v = some (a, shape) →
      (node = .dots shape.opening shape.closing ↔ s.Encloses root path a)
  complete : ∀ path v, s.follow root path = some v → (∃ node, o.at? path = some node) ∨
    ∃ q opening closing, q <+: path ∧ q ≠ path ∧ o.at? q = some (.dots opening closing)

/-! ## Containers and paths -/

variable {s : Store}

theorem container?_some {v a shape} (h : s.container? v = some (a, shape)) :
    v = .ref a ∧ ∃ c, s[a]? = some c ∧ c.shape? s = some shape := by
  unfold container? at h
  split at h
  · rename_i b
    cases found : s[b]? with
    | none => simp [found] at h
    | some c =>
        cases shaped : c.shape? s with
        | none => simp [found, shaped] at h
        | some shape' =>
            simp only [found, shaped, Option.bind_some, Option.map_some, Option.some.injEq,
              Prod.mk.injEq] at h
            obtain ⟨rfl, rfl⟩ := h
            exact ⟨rfl, c, found, shaped⟩
  · cases h

theorem follow_cons {v a shape i path} (h : s.container? v = some (a, shape)) :
    s.follow v (i :: path) = shape.entries[i]?.bind fun e => s.follow e.2 path := by
  rw [follow, h]
  rfl

theorem follow_entered {v i path w} (h : s.follow v (i :: path) = some w) :
    ∃ a shape e, s.container? v = some (a, shape) ∧ shape.entries[i]? = some e ∧
      s.follow e.2 path = some w := by
  cases found : s.container? v with
  | none => simp [follow, found] at h
  | some c =>
      obtain ⟨a, shape⟩ := c
      rw [follow_cons found] at h
      obtain ⟨e, he, behind⟩ := Option.bind_eq_some_iff.mp h
      exact ⟨a, shape, e, rfl, he, behind⟩

/-- What holds of a value, and of the entries of all that it holds of, holds at the end of every
    path. -/
theorem follow_closed {P : Value → Prop} {v path w}
    (step : ∀ u a shape, P u → s.container? u = some (a, shape) → ∀ e ∈ shape.entries, P e.2)
    (h : P v) (reached : s.follow v path = some w) : P w := by
  induction path generalizing v with
  | nil =>
      cases reached
      exact h
  | cons i path ih =>
      obtain ⟨a, shape, e, found, he, behind⟩ := follow_entered reached
      exact ih (step v a shape h found e (List.mem_of_getElem? he)) behind

theorem not_encloses_nil {v a} : ¬ s.Encloses v [] a := by
  rintro ⟨q, before, proper, -⟩
  exact proper (List.prefix_nil.mp before)

theorem encloses_cons {v b shape i path a} {e : Text × Value}
    (h : s.container? v = some (b, shape)) (he : shape.entries[i]? = some e) :
    s.Encloses v (i :: path) a ↔ a = b ∨ s.Encloses e.2 path a := by
  obtain ⟨rfl, -⟩ := container?_some h
  constructor
  · rintro ⟨q, before, proper, here⟩
    rcases List.prefix_cons_iff.mp before with rfl | ⟨r, rfl, shorter⟩
    · cases here
      exact .inl rfl
    · rw [follow_cons h, he] at here
      exact .inr ⟨r, shorter, fun same => proper (by rw [same]), here⟩
  · rintro (rfl | ⟨q, before, proper, here⟩)
    · exact ⟨[], List.nil_prefix, by simp, rfl⟩
    · refine ⟨i :: q, List.cons_prefix_cons.mpr ⟨rfl, before⟩, by simpa using proper, ?_⟩
      rw [follow_cons h, he]
      exact here

/-! ## The outline of a value -/

/-- The outline of a value, `seen` being the containers around it. -/
def outlineFrom (s : Store) (seen : List Address) (v : Value) : Outline :=
  match _h : s.container? v with
  | none => .line (s.safeDisplay v)
  | some (a, shape) =>
      if _ha : a ∈ seen then .dots shape.opening shape.closing
      else if shape.entries.isEmpty then .empty shape.empty
      else .block shape.opening shape.closing
        (shape.entries.map fun e => (e.1, outlineFrom s (a :: seen) e.2))
termination_by s.unseen seen
decreasing_by
  obtain ⟨-, c, found, -⟩ := container?_some _h
  exact unseen_cons_lt _ha found

/-- What a value shows, by what container it is. -/
theorem expandFrom_eq (indent : Int) (level : Nat) (seen : List Address) (v : Value) :
    expandFrom s indent level seen v =
      match s.container? v with
      | none => s.safeDisplay v
      | some (a, shape) =>
          if a ∈ seen then shape.opening ++ "..." ++ shape.closing
          else if shape.entries.isEmpty then shape.empty
          else
            Text.joinWith "\n" (shape.opening ::
              (shape.entries.map fun e =>
                padding indent (level + 1) ++ e.1 ++
                  expandFrom s indent (level + 1) (a :: seen) e.2 ++ ",") ++
              [padding indent level ++ shape.closing]) := by
  cases v with
  | ref a =>
      rw [expandFrom, container?]
      split
      · rename_i found
        rw [found]
        rfl
      · rename_i c found
        rw [found, Option.bind_some]
        split
        · rename_i plain
          rw [plain]
          rfl
        · rename_i shape shaped
          rw [shaped, Option.map_some]
          split
          · rename_i inside
            exact (if_pos inside).symm
          · rename_i outside
            exact (if_neg outside).symm
  | _ =>
      rw [expandFrom]
      · rfl
      · simp

theorem expandFrom_outline (indent : Int) (level : Nat) (seen : List Address) (v : Value) :
    expandFrom s indent level seen v = (outlineFrom s seen v).text indent level := by
  fun_induction outlineFrom s seen v generalizing level with
  | case1 seen v plain => rw [expandFrom_eq, plain, Outline.text]
  | case2 seen v a shape found inside =>
      rw [expandFrom_eq, found, Outline.text]
      exact if_pos inside
  | case3 seen v a shape found outside none =>
      rw [expandFrom_eq, found, Outline.text]
      simp only [outside, none, if_false, if_true]
  | case4 seen v a shape found outside some ih =>
      rw [expandFrom_eq, found, Outline.text]
      simp only [outside, some, if_false, List.map_map, Function.comp_def, ih]
      rfl

/-! ## What an outline shows where -/

theorem Presents.congr {around around' : Address → Prop} {v node}
    (h : s.Presents around v node) (same : ∀ a, around a ↔ around' a) :
    s.Presents around' v node := by
  rw [← funext fun a => propext (same a)]
  exact h

theorem outlineFrom_root (seen : List Address) (v : Value) :
    s.Presents (· ∈ seen) v (outlineFrom s seen v) := by
  unfold outlineFrom
  split
  · rename_i plain
    exact .line plain
  · rename_i a shape found
    split
    · rename_i inside
      exact .dots found inside
    · rename_i outside
      split
      · rename_i none
        exact .empty found outside (List.isEmpty_iff.mp none)
      · rename_i some
        refine .block found outside (fun none => some (List.isEmpty_iff.mpr none)) ?_
        simp [Function.comp_def]

theorem outlineFrom_dots {seen v a shape} (found : s.container? v = some (a, shape))
    (inside : a ∈ seen) : outlineFrom s seen v = .dots shape.opening shape.closing := by
  have root := outlineFrom_root (s := s) seen v
  generalize outlineFrom s seen v = o at root
  cases root with
  | line plain => cases found.symm.trans plain
  | dots found' =>
      cases found.symm.trans found'
      rfl
  | empty found' outside | block found' outside =>
      cases found.symm.trans found'
      exact absurd inside outside

/-- Only a container that is shown in full has outlines below it. -/
theorem outlineFrom_below {seen v i path node}
    (h : (outlineFrom s seen v).at? (i :: path) = some node) :
    ∃ a shape e, s.container? v = some (a, shape) ∧ a ∉ seen ∧ shape.entries[i]? = some e ∧
      (outlineFrom s (a :: seen) e.2).at? path = some node := by
  unfold outlineFrom at h
  split at h
  · simp [Outline.at?] at h
  · rename_i a shape found
    split at h
    · simp [Outline.at?] at h
    · rename_i outside
      split at h
      · simp [Outline.at?] at h
      · simp only [Outline.at?, List.getElem?_map] at h
        cases he : shape.entries[i]? with
        | none => simp [he] at h
        | some e =>
            rw [he] at h
            exact ⟨a, shape, e, found, outside, he, h⟩

theorem outlineFrom_above {seen v a shape i} {e : Text × Value}
    (found : s.container? v = some (a, shape)) (outside : a ∉ seen)
    (he : shape.entries[i]? = some e) (path : List Nat) :
    (outlineFrom s seen v).at? (i :: path) = (outlineFrom s (a :: seen) e.2).at? path := by
  have some : ¬ shape.entries.isEmpty := by
    intro none
    rw [List.isEmpty_iff.mp none] at he
    cases he
  rw [outlineFrom]
  split
  · rename_i plain
    cases found.symm.trans plain
  · rename_i found'
    cases found.symm.trans found'
    rw [dif_neg outside, if_neg some, Outline.at?, List.getElem?_map, he]
    rfl

theorem outlineFrom_presents {seen v path node}
    (h : (outlineFrom s seen v).at? path = some node) :
    ∃ w, s.follow v path = some w ∧
      s.Presents (fun a => a ∈ seen ∨ s.Encloses v path a) w node := by
  induction path generalizing seen v with
  | nil =>
      cases h
      refine ⟨v, rfl, (outlineFrom_root seen v).congr fun a => ?_⟩
      simp [not_encloses_nil]
  | cons i path ih =>
      obtain ⟨a, shape, e, found, -, he, below⟩ := outlineFrom_below h
      obtain ⟨w, reached, presents⟩ := ih below
      refine ⟨w, ?_, presents.congr fun b => ?_⟩
      · rw [follow_cons found, he]
        exact reached
      · rw [encloses_cons found he, List.mem_cons, or_assoc, or_left_comm]

theorem outlineFrom_complete {seen v path w} (h : s.follow v path = some w) :
    (∃ node, (outlineFrom s seen v).at? path = some node) ∨
      ∃ q opening closing, q <+: path ∧ q ≠ path ∧
        (outlineFrom s seen v).at? q = some (.dots opening closing) := by
  induction path generalizing seen v with
  | nil => exact .inl ⟨_, rfl⟩
  | cons i path ih =>
      cases found : s.container? v with
      | none => simp [follow, found] at h
      | some c =>
          obtain ⟨a, shape⟩ := c
          rw [follow_cons found] at h
          cases he : shape.entries[i]? with
          | none => simp [he] at h
          | some e =>
              rw [he] at h
              by_cases inside : a ∈ seen
              · refine .inr ⟨[], shape.opening, shape.closing, List.nil_prefix, by simp, ?_⟩
                rw [outlineFrom_dots found inside]
                rfl
              · rcases ih h with ⟨node, below⟩ | ⟨q, opening, closing, before, proper, below⟩
                · exact .inl ⟨node, (outlineFrom_above found inside he path).trans below⟩
                · refine .inr ⟨i :: q, opening, closing, ?_, by simpa using proper, ?_⟩
                  · exact List.cons_prefix_cons.mpr ⟨rfl, before⟩
                  · exact (outlineFrom_above found inside he q).trans below

theorem Presents.dots_iff {around : Address → Prop} {v node a shape}
    (h : s.Presents around v node) (found : s.container? v = some (a, shape)) :
    node = .dots shape.opening shape.closing ↔ around a := by
  cases h with
  | line plain => cases found.symm.trans plain
  | dots found' inside =>
      cases found.symm.trans found'
      simp [inside]
  | empty found' outside | block found' outside =>
      cases found.symm.trans found'
      simp [outside]

theorem unfolds_outline (s : Store) (v : Value) : s.Unfolds v (outlineFrom s [] v) where
  presents path node h := by
    obtain ⟨w, reached, presents⟩ := outlineFrom_presents h
    exact ⟨w, reached, presents.congr fun a => by simp⟩
  dots_iff path node w a shape h reached found := by
    obtain ⟨w', reached', presents⟩ := outlineFrom_presents h
    cases reached.symm.trans reached'
    simpa using presents.dots_iff found
  complete path w reached := outlineFrom_complete reached

end Store

end Stencil

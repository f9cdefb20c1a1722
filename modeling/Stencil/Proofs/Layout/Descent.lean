import Mathlib.Order.Bounds.Defs
import Stencil.Layout.Array
import Stencil.Proofs.Layout.Depth
import Stencil.Proofs.Value.Shown

/-! # Depth along paths

The bracket depth of a structural text is a fact about the value alone: the most
lists that lie on a path from the value down, from part to part, to a scalar or to
a container without parts. Paths go through cells and know nothing of text.
-/

namespace Stencil

open Layout

namespace Store

/-- What a value is made of: items, or keys and values. -/
def parts (s : Store) : Value → List Value
  | .ref a =>
      match s[a]? with
      | some (.list vs) | some (.tuple vs) => vs
      | some (.map _ es) => es.flatMap fun e => [e.1, e.2]
      | _ => []
  | _ => []

def isList (s : Store) : Value → Bool
  | .ref a =>
      match s[a]? with
      | some (.list _) => true
      | _ => false
  | _ => false

/-- A path from a value down to one without parts. -/
inductive Path (s : Store) : Value → List Value → Prop where
  | last {v} : s.parts v = [] → Path s v [v]
  | down {v w path} : w ∈ s.parts v → Path s w path → Path s v (v :: path)

end Store

namespace Literal

def parts : Literal → List Literal
  | scalar _ => []
  | list xs | tuple xs | set xs => xs
  | dict es => es.flatMap fun e => [e.1, e.2]

def isList : Literal → Bool
  | list _ => true
  | _ => false

/-! ## Depth by parts -/

theorem listDepthEntries_eq (es : List (Literal × Literal)) :
    listDepthEntries es = listDepthAll (es.flatMap fun e => [e.1, e.2]) := by
  induction es with
  | nil => rfl
  | cons e es ih =>
      obtain ⟨k, v⟩ := e
      simp only [listDepthEntries, List.flatMap_cons, List.cons_append, List.nil_append,
        listDepthAll, ih, Nat.max_assoc]

theorem listDepth_eq (l : Literal) : l.listDepth = l.isList.toNat + listDepthAll l.parts := by
  cases l with
  | scalar => rfl
  | list xs =>
      rw [listDepth, Nat.add_comm]
      rfl
  | tuple xs | set xs =>
      rw [listDepth]
      exact (Nat.zero_add _).symm
  | dict es =>
      rw [listDepth, listDepthEntries_eq]
      exact (Nat.zero_add _).symm

theorem listDepth_le_all {xs : List Literal} {x : Literal} (h : x ∈ xs) :
    x.listDepth ≤ listDepthAll xs := by
  induction xs with
  | nil => cases h
  | cons y ys ih =>
      rw [listDepthAll]
      obtain rfl | h := List.mem_cons.mp h
      · exact Nat.le_max_left _ _
      · exact Nat.le_trans (ih h) (Nat.le_max_right _ _)

/-- One of some literals is as deep as all of them. -/
theorem exists_deepest {xs : List Literal} (nonempty : xs ≠ []) :
    ∃ x ∈ xs, x.listDepth = listDepthAll xs := by
  induction xs with
  | nil => exact absurd rfl nonempty
  | cons x xs ih =>
      rw [listDepthAll]
      by_cases least : listDepthAll xs ≤ x.listDepth
      · exact ⟨x, List.mem_cons_self, (Nat.max_eq_left least).symm⟩
      · have deeper : x.listDepth ≤ listDepthAll xs := Nat.le_of_not_le least
        have some : xs ≠ [] := by
          rintro rfl
          exact least (Nat.zero_le _)
        obtain ⟨y, member, same⟩ := ih some
        exact ⟨y, List.mem_cons_of_mem x member, same.trans (Nat.max_eq_right deeper).symm⟩

theorem size_part {l x : Literal} (h : x ∈ l.parts) : sizeOf x < sizeOf l := by
  cases l with
  | scalar => cases h
  | list xs => exact (Store.size_item h).1
  | tuple xs => exact (Store.size_item h).2
  | set xs =>
      have smaller := List.sizeOf_lt_of_mem h
      simp only [parts] at smaller
      simp only [set.sizeOf_spec]
      omega
  | dict es =>
      obtain ⟨e, entry, part⟩ := List.mem_flatMap.mp h
      obtain ⟨key, value⟩ := Store.size_entry entry
      simp only [List.mem_cons, List.not_mem_nil, or_false] at part
      obtain rfl | rfl := part
      · exact key
      · exact value

end Literal

/-! ## Paths of what holds a literal -/

namespace Store

variable {s : Store} {v : Value} {l : Literal}

theorem Holds.isList (h : s.Holds v l) : s.isList v = l.isList := by
  cases h with
  | scalar => rfl
  | list found | tuple found | dict found => simp [Store.isList, found, Literal.isList]

theorem Holds.parts (h : s.Holds v l) : List.Forall₂ s.Holds (s.parts v) l.parts := by
  cases h with
  | scalar => exact .nil
  | list found length items =>
      simp only [Store.parts, found]
      exact forall₂_of_zip length items
  | tuple found length items =>
      simp only [Store.parts, found]
      exact forall₂_of_zip length items
  | dict found length keys values =>
      simp only [Store.parts, found]
      have entries := forall₂_of_zip (R := fun p e => s.Holds p.1 e.1 ∧ s.Holds p.2 e.2) length
        fun q hq => ⟨keys q hq, values q hq⟩
      exact List.rel_flatMap entries fun p e both => .cons both.1 (.cons both.2 .nil)

theorem countP_path (s : Store) (v : Value) (path : List Value) :
    (v :: path).countP s.isList = (s.isList v).toNat + path.countP s.isList := by
  rw [List.countP_cons, Nat.add_comm]
  cases s.isList v <;> rfl

/-- No path goes through more lists than the literal is deep. -/
theorem Holds.lists_le {path : List Value} (h : s.Holds v l) (down : s.Path v path) :
    path.countP s.isList ≤ l.listDepth := by
  induction down generalizing l with
  | last =>
      rw [countP_path, List.countP_nil, h.isList, l.listDepth_eq]
      apply Nat.add_le_add_left
      exact Nat.zero_le _
  | down part _ ih =>
      obtain ⟨x, member, held⟩ := forall₂_partner h.parts part
      rw [countP_path, h.isList, l.listDepth_eq]
      apply Nat.add_le_add_left
      exact Nat.le_trans (ih held) (Literal.listDepth_le_all member)

/-- A path through the deepest part of each part has as many lists as the literal is deep. -/
theorem Holds.exists_path {v : Value} {l : Literal} (h : s.Holds v l) :
    ∃ path, s.Path v path ∧ path.countP s.isList = l.listDepth := by
  rw [l.listDepth_eq]
  have related := h.parts
  by_cases none : l.parts = []
  · rw [none, List.forall₂_nil_right_iff] at related
    refine ⟨[v], .last related, ?_⟩
    rw [countP_path, h.isList, none]
    rfl
  · obtain ⟨x, member, deepest⟩ := Literal.exists_deepest none
    obtain ⟨w, part, held⟩ := forall₂_partner related.flip member
    obtain ⟨path, down, lists⟩ := Holds.exists_path held
    refine ⟨v :: path, .down part down, ?_⟩
    rw [countP_path, h.isList, lists, deepest]
termination_by sizeOf l
decreasing_by exact Literal.size_part member

end Store

/-- The brackets of a value's structural text are as deep as the most lists on a path down from the
    value, and laying the text out has nothing to warn about. -/
theorem nestingDepth_greatest {s : Store} {v : Value} {l : Literal} (h : s.Holds v l) :
    IsGreatest {n | ∃ path, s.Path v path ∧ path.countP s.isList = n}
        (nestingDepth (s.debugText v)) ∧
      ∀ depth, (formatArray (s.debugText v) depth).2 = none := by
  have profile := profile_display l
  have depth : nestingDepth (s.debugText v) = l.listDepth := by
    rw [h.debugText, nestingDepth, profile]
  have balanced : imbalance? (s.debugText v) = none := by
    rw [h.debugText, imbalance?, profile]
    rfl
  refine ⟨⟨?_, ?_⟩, fun _ => balanced⟩
  · rw [depth]
    exact h.exists_path
  · rintro n ⟨path, down, rfl⟩
    rw [depth]
    exact h.lists_le down

/-- A list in a tuple in a dictionary in a list, beside text of brackets, quotes and a backslash. -/
theorem nestingDepth_greatest_quoted :
    let s : Store := [.list [.text "[[']\"\\\n[", .scalar (.bytes [91, 39]), .ref 1],
      .map .plain [(.text "]", .ref 2)], .tuple [.ref 3], .list []]
    let l : Literal := .list [.scalar (.text "[[']\"\\\n["), .scalar (.bytes [91, 39]),
      .dict [(.scalar (.text "]"), .tuple [.list []])]]
    s.Holds (.ref 0) l ∧
      IsGreatest {n | ∃ path, s.Path (.ref 0) path ∧ path.countP s.isList = n} 2 ∧
      ∀ depth, (formatArray (s.debugText (.ref 0)) depth).2 = none := by
  intro s l
  have empty : s.Holds (.ref 3) (.list []) := .list rfl rfl (by simp)
  have tuple : s.Holds (.ref 2) (.tuple [.list []]) := .tuple rfl rfl (by simpa using empty)
  have dict : s.Holds (.ref 1) (.dict [(.scalar (.text "]"), .tuple [.list []])]) :=
    .dict rfl rfl (by simpa using Store.Holds.scalar) (by simpa using tuple)
  have holds : s.Holds (.ref 0) l :=
    .list rfl rfl (by simpa using ⟨Store.Holds.scalar, Store.Holds.scalar, dict⟩)
  have depth : nestingDepth (s.debugText (.ref 0)) = 2 := by
    rw [holds.debugText, nestingDepth, profile_display]
    rfl
  have greatest := nestingDepth_greatest holds
  rw [depth] at greatest
  exact ⟨holds, greatest⟩

end Stencil

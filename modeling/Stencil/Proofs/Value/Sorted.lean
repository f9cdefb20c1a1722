import Mathlib.Data.List.Perm.Basic
import Stencil.Value.Compare

/-! # Sorting

Sorting puts items in another order and does nothing else, also where it stops
because two of them have no order. It compares items with each other only.
-/

namespace Stencil

variable {α : Type} {less less' : α → α → Option Bool}

/-! ## Nothing is lost -/

theorem inserted_perm (x : α) (sorted rest : List α) (i : Nat) :
    ((sorted.take i ++ x :: sorted.drop i) ++ rest).Perm (sorted ++ x :: rest) := by
  have middle : (sorted.take i ++ x :: sorted.drop i).Perm (x :: sorted) := by
    refine List.perm_middle.trans ?_
    rw [List.take_append_drop]
  exact (middle.append_right rest).trans List.perm_middle.symm

theorem insertAll_perm (less : α → α → Option Bool) (sorted rest : List α) :
    (insertAll less sorted rest).1.Perm (sorted ++ rest) := by
  induction rest generalizing sorted with
  | nil => rw [insertAll, List.append_nil]
  | cons x rest ih =>
      rw [insertAll]
      split
      · rfl
      · exact (ih _).trans (inserted_perm x sorted rest _)

theorem turned_perm (falling : Bool) (n : Nat) (xs : List α) :
    ((if falling then (xs.take n).reverse else xs.take n) ++ xs.drop n).Perm xs := by
  have run : (if falling then (xs.take n).reverse else xs.take n).Perm (xs.take n) := by
    split
    · exact List.reverse_perm _
    · rfl
  have whole := run.append_right (xs.drop n)
  rwa [List.take_append_drop] at whole

theorem sortItems_perm (less : α → α → Option Bool) (xs : List α) :
    (sortItems less xs).1.Perm xs := by
  unfold sortItems
  split
  · split
    · rfl
    · split
      · rfl
      · exact (insertAll_perm less _ _).trans (turned_perm _ _ _)
  · rfl

/-! ## Only the items count -/

theorem insertionPoint_congr {x : α} {sorted : Array α}
    (same : ∀ y, y = x ∨ y ∈ sorted → less x y = less' x y) (low high : Nat) :
    insertionPoint less x sorted low high = insertionPoint less' x sorted low high := by
  have at_ (i : Nat) : less x (sorted.getD i x) = less' x (sorted.getD i x) := by
    apply same
    rw [Array.getD]
    split
    · exact .inr (Array.getElem_mem _)
    · exact .inl rfl
  fun_induction insertionPoint less x sorted low high with
  | case1 low high inside middle unordered =>
      rw [at_] at unordered
      rw [insertionPoint, dif_pos inside]
      simp only [middle, unordered]
  | case2 low high inside middle before ih =>
      rw [at_] at before
      rw [ih]
      conv_rhs => rw [insertionPoint, dif_pos inside]
      simp only [middle, before]
  | case3 low high inside middle behind ih =>
      rw [at_] at behind
      rw [ih]
      conv_rhs => rw [insertionPoint, dif_pos inside]
      simp only [middle, behind]
  | case4 low high outside => rw [insertionPoint, dif_neg outside]

theorem insertAll_congr {sorted rest : List α}
    (same : ∀ x ∈ sorted ++ rest, ∀ y ∈ sorted ++ rest, less x y = less' x y) :
    insertAll less sorted rest = insertAll less' sorted rest := by
  induction rest generalizing sorted with
  | nil => rfl
  | cons x rest ih =>
      have point : insertionPoint less x sorted.toArray 0 sorted.length =
          insertionPoint less' x sorted.toArray 0 sorted.length := by
        refine insertionPoint_congr (fun y hy => same x (by simp) y ?_) _ _
        rcases hy with rfl | hy
        · simp
        · exact List.mem_append_left _ (List.mem_toArray.mp hy)
      rw [insertAll, insertAll, point]
      split
      · rfl
      · apply ih
        intro y hy z hz
        rw [(inserted_perm x sorted rest _).mem_iff] at hy hz
        exact same y hy z hz

theorem runLength_congr {x : α} {xs : List α} (falling : Bool)
    (same : ∀ y ∈ x :: xs, ∀ z ∈ x :: xs, less y z = less' y z) :
    runLength less falling x xs = runLength less' falling x xs := by
  induction xs generalizing x with
  | nil => rfl
  | cons y xs ih =>
      rw [runLength, runLength, same y (by simp) x (by simp),
        ih fun z hz u hu => same z (List.mem_cons_of_mem _ hz) u (List.mem_cons_of_mem _ hu)]

theorem sortItems_congr {xs : List α} (same : ∀ x ∈ xs, ∀ y ∈ xs, less x y = less' x y) :
    sortItems less xs = sortItems less' xs := by
  unfold sortItems
  split
  · rename_i x y rest
    rw [same y (by simp) x (by simp)]
    split
    · rfl
    · rename_i falling _
      rw [runLength_congr falling same]
      split
      · rfl
      · apply insertAll_congr
        intro z hz u hu
        rw [(turned_perm falling _ _).mem_iff] at hz hu
        exact same z hz u hu
  · rfl

end Stencil

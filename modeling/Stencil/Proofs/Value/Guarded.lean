import Mathlib
import Stencil.Proofs.Value.Outline

/-! # Writing under a guard

A value is written over several lines with a set of the containers that are being
written. A container is put into the set before its entries and taken out behind
them, and one that is met while it is in the set is shown by dots. This ends for
every store, cyclic or not, and gives the text of the outline that unfolds the
value: the set is always that of the containers around the value.
-/

namespace Stencil

mutual

/-- Writes a value at a level, and says what set of containers being written it finds and leaves. -/
inductive Writes (s : Store) (indent : Int) :
    Nat → Finset Address → Value → Text → Finset Address → Prop where
  | line {level seen v} : s.container? v = none →
      Writes s indent level seen v (s.safeDisplay v) seen
  | dots {level seen v a shape} : s.container? v = some (a, shape) → a ∈ seen →
      Writes s indent level seen v (shape.opening ++ "..." ++ shape.closing) seen
  | empty {level seen v a shape} : s.container? v = some (a, shape) → a ∉ seen →
      shape.entries = [] → Writes s indent level seen v shape.empty seen
  | block {level seen v a shape lines after} : s.container? v = some (a, shape) → a ∉ seen →
      shape.entries ≠ [] → WritesAll s indent (level + 1) (insert a seen) shape.entries lines after →
      Writes s indent level seen v
        (Text.joinWith "\n" (shape.opening :: lines ++ [padding indent level ++ shape.closing]))
        (after.erase a)

/-- Writes entries one after the other, a line for each. -/
inductive WritesAll (s : Store) (indent : Int) :
    Nat → Finset Address → List (Text × Value) → List Text → Finset Address → Prop where
  | nil {level seen} : WritesAll s indent level seen [] [] seen
  | cons {level seen label v text between entries lines after} :
      Writes s indent level seen v text between →
      WritesAll s indent level between entries lines after →
      WritesAll s indent level seen ((label, v) :: entries)
        ((padding indent level ++ label ++ text ++ ",") :: lines) after

end

variable {s : Store} {indent : Int}

/-! ## The text that is written -/

theorem WritesAll.of_each {level seen entries} {text : Value → Text}
    (h : ∀ v, Writes s indent level seen v (text v) seen) :
    WritesAll s indent level seen entries
      (entries.map fun e => padding indent level ++ e.1 ++ text e.2 ++ ",") seen := by
  induction entries with
  | nil => exact .nil
  | cons e entries ih => exact .cons (h e.2) ih

theorem exists_writes (level : Nat) (seen : List Address) (v : Value) :
    Writes s indent level seen.toFinset v (expandFrom s indent level seen v) seen.toFinset := by
  fun_induction Store.outlineFrom s seen v generalizing level with
  | case1 seen v plain =>
      rw [Store.expandFrom_eq, plain]
      exact .line plain
  | case2 seen v a shape found inside =>
      rw [Store.expandFrom_eq, found]
      simp only [inside, if_true]
      exact .dots found (List.mem_toFinset.mpr inside)
  | case3 seen v a shape found outside bare =>
      rw [Store.expandFrom_eq, found]
      simp only [outside, bare, if_false, if_true]
      exact .empty found (by simpa using outside) (List.isEmpty_iff.mp bare)
  | case4 seen v a shape found outside full ih =>
      rw [Store.expandFrom_eq, found]
      simp only [outside, full, if_false]
      have absent : a ∉ seen.toFinset := by simpa using outside
      have each : ∀ w, Writes s indent (level + 1) (insert a seen.toFinset) w
          (expandFrom s indent (level + 1) (a :: seen) w) (insert a seen.toFinset) := by
        intro w
        rw [← List.toFinset_cons]
        exact ih ([], w) (level + 1)
      have written := Writes.block found absent (fun none => full (List.isEmpty_iff.mpr none))
        (WritesAll.of_each each)
      rw [Finset.erase_insert absent] at written
      exact written

mutual

/-- What is written is what a value expands to, and the set of containers being written is the same
    behind it as before it. -/
theorem Writes.expands {level : Nat} {seen after : Finset Address} {v : Value} {text : Text}
    (h : Writes s indent level seen v text after) :
    after = seen ∧ ∀ around : List Address, around.toFinset = seen →
      text = expandFrom s indent level around v := by
  match h with
  | .line plain =>
      refine ⟨rfl, fun around _ => ?_⟩
      rw [Store.expandFrom_eq, plain]
  | .dots found inside =>
      refine ⟨rfl, fun around same => ?_⟩
      rw [← same, List.mem_toFinset] at inside
      rw [Store.expandFrom_eq, found]
      exact (if_pos inside).symm
  | .empty found outside bare =>
      refine ⟨rfl, fun around same => ?_⟩
      rw [← same, List.mem_toFinset] at outside
      rw [Store.expandFrom_eq, found]
      simp [outside, bare]
  | .block found outside full rest =>
      obtain ⟨restored, lines⟩ := WritesAll.expands rest
      refine ⟨by rw [restored, Finset.erase_insert outside], fun around same => ?_⟩
      rw [lines (_ :: around) (by rw [List.toFinset_cons, same])]
      rw [← same, List.mem_toFinset] at outside
      rw [Store.expandFrom_eq, found]
      simp [outside, full]

theorem WritesAll.expands {level : Nat} {seen after : Finset Address}
    {entries : List (Text × Value)} {lines : List Text}
    (h : WritesAll s indent level seen entries lines after) :
    after = seen ∧ ∀ around : List Address, around.toFinset = seen →
      lines = entries.map fun e =>
        padding indent level ++ e.1 ++ expandFrom s indent level around e.2 ++ "," := by
  match h with
  | .nil => exact ⟨rfl, fun _ _ => rfl⟩
  | .cons first rest =>
      obtain ⟨kept, text⟩ := Writes.expands first
      obtain ⟨kept', lines⟩ := WritesAll.expands rest
      refine ⟨kept'.trans kept, fun around same => ?_⟩
      rw [text around same, lines around (same.trans kept.symm)]
      rfl

end

/-- Writing a value ends for every store and gives the text of an outline that unfolds the value: a
    container is shown by dots exactly where it is its own ancestor, and in full everywhere else.
    The set of containers being written is the same behind each element as before it. -/
theorem expand_unfolds (s : Store) (indent : Int) (root : Value) :
    (∃ o : Outline, s.expand indent root = o.text indent 0 ∧ s.Unfolds root o) ∧
      (∀ text after, Writes s indent 0 ∅ root text after ↔
        text = s.expand indent root ∧ after = ∅) ∧
      ∀ level seen v text after, Writes s indent level seen v text after → after = seen := by
  refine ⟨⟨s.outlineFrom [] root, Store.expandFrom_outline indent 0 [] root,
    s.unfolds_outline root⟩, fun text after => ⟨fun h => ?_, ?_⟩, fun _ _ _ _ _ h => h.expands.1⟩
  · obtain ⟨restored, written⟩ := h.expands
    exact ⟨written [] rfl, restored⟩
  · rintro ⟨rfl, rfl⟩
    exact exists_writes 0 [] root

/-- A list that holds itself twice. -/
theorem expand_unfolds_itself :
    let s : Store := [.list [.ref 0, .ref 0]]
    Writes s 2 0 ∅ (.ref 0) "[\n  [...],\n  [...],\n]" ∅ := by
  intro s
  refine ((expand_unfolds s 2 (.ref 0)).2.1 _ ∅).mpr ⟨?_, rfl⟩
  cbv

end Stencil

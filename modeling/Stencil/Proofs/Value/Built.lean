import Stencil.Proofs.Literal.Display
import Stencil.Proofs.Value.Holds
import Stencil.Value.Act

/-! # Building values from literals

Building a plain literal as a value adds cells to the store and changes none, and
the value holds the literal. So every plain literal is held by some value.
-/

namespace Stencil

open Store

theorem Store.Holds.grow {s t : Store} {v l} (h : s.Holds v l) (hst : s <+: t) : t.Holds v l := by
  obtain ⟨more, rfl⟩ := hst
  have kept : ∀ {a : Address} {c : Cell}, s[a]? = some c → (s ++ more)[a]? = some c := by
    intro a c found
    rw [List.getElem?_append_left (List.getElem?_eq_some_iff.mp found).1, found]
  induction h with
  | scalar => exact .scalar
  | list found length _ ih => exact .list (kept found) length ih
  | tuple found length _ ih => exact .tuple (kept found) length ih
  | dict found length _ _ ihk ihv => exact .dict (kept found) length ihk ihv

namespace Literal

/-- A literal is built as a value that holds it, with nothing changed that was there before. -/
def Builds (l : Literal) : Prop :=
  ∀ s : Store, s <+: (l.build s).2 ∧ (l.build s).2.Holds (l.build s).1 l

theorem buildAll_holds {xs : List Literal} (h : ∀ x ∈ xs, Builds x) (s : Store) :
    s <+: (buildAll xs s).2 ∧
      List.Forall₂ (buildAll xs s).2.Holds (buildAll xs s).1 xs := by
  induction xs generalizing s with
  | nil => exact ⟨List.prefix_refl s, .nil⟩
  | cons x xs ih =>
      obtain ⟨grown, held⟩ := h x (by simp) s
      obtain ⟨more, rest⟩ := ih (fun y hy => h y (by simp [hy])) (x.build s).2
      exact ⟨grown.trans more, .cons (held.grow more) rest⟩

theorem buildEntries_holds {es : List (Literal × Literal)} (hk : ∀ e ∈ es, Builds e.1)
    (hv : ∀ e ∈ es, Builds e.2) (s : Store) :
    s <+: (buildEntries es s).2 ∧
      List.Forall₂ (fun p e => (buildEntries es s).2.Holds p.1 e.1 ∧
        (buildEntries es s).2.Holds p.2 e.2) (buildEntries es s).1 es := by
  induction es generalizing s with
  | nil => exact ⟨List.prefix_refl s, .nil⟩
  | cons e es ih =>
      obtain ⟨k, v⟩ := e
      obtain ⟨grown, key⟩ := hk (k, v) (by simp) s
      obtain ⟨grown', value⟩ := hv (k, v) (by simp) (k.build s).2
      obtain ⟨more, rest⟩ := ih (fun f hf => hk f (by simp [hf])) (fun f hf => hv f (by simp [hf]))
        (v.build (k.build s).2).2
      exact ⟨(grown.trans grown').trans more,
        .cons ⟨key.grow (grown'.trans more), value.grow more⟩ rest⟩

theorem Plain.builds {l} (h : Plain l) : Builds l := by
  have new : ∀ (t : Store) (c : Cell), (t ++ [c])[t.length]? = some c := by simp
  induction h with
  | none | bool | int | text | bytes => exact fun s => ⟨List.prefix_refl s, .scalar⟩
  | list _ ih =>
      intro s
      obtain ⟨grown, held⟩ := buildAll_holds ih s
      refine ⟨grown.trans (List.prefix_append ..), .list (new _ _) held.length_eq ?_⟩
      exact fun p hp => (List.forall₂_zip held hp).grow (List.prefix_append ..)
  | tuple _ ih =>
      intro s
      obtain ⟨grown, held⟩ := buildAll_holds ih s
      refine ⟨grown.trans (List.prefix_append ..), .tuple (new _ _) held.length_eq ?_⟩
      exact fun p hp => (List.forall₂_zip held hp).grow (List.prefix_append ..)
  | dict _ _ _ ihk ihv =>
      intro s
      obtain ⟨grown, held⟩ := buildEntries_holds ihk ihv s
      refine ⟨grown.trans (List.prefix_append ..), .dict (new _ _) held.length_eq ?_ ?_⟩
      · exact fun q hq => (List.forall₂_zip held hq).1.grow (List.prefix_append ..)
      · exact fun q hq => (List.forall₂_zip held hq).2.grow (List.prefix_append ..)

end Literal

end Stencil

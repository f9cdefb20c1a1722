import Mathlib.Data.List.Forall2
import Stencil.Literal.Basic
import Stencil.Value.Basic

/-! # Values that hold a literal

A value holds a literal when the cells below it unfold to this literal. Cells may
be shared, but what a cell holds is smaller than what any cell around it holds,
so that going down from a value never comes back to a cell.
-/

namespace Stencil

namespace Store

/-- A value and the literal that its cells unfold to. -/
inductive Holds (s : Store) : Value → Literal → Prop where
  | scalar {x} : Holds s (.scalar x) (.scalar x)
  | list {a vs xs} : s[a]? = some (.list vs) → vs.length = xs.length →
      (∀ p ∈ vs.zip xs, Holds s p.1 p.2) → Holds s (.ref a) (.list xs)
  | tuple {a vs xs} : s[a]? = some (.tuple vs) → vs.length = xs.length →
      (∀ p ∈ vs.zip xs, Holds s p.1 p.2) → Holds s (.ref a) (.tuple xs)
  | dict {a ps es} : s[a]? = some (.map .plain ps) → ps.length = es.length →
      (∀ q ∈ ps.zip es, Holds s q.1.1 q.2.1) → (∀ q ∈ ps.zip es, Holds s q.1.2 q.2.2) →
      Holds s (.ref a) (.dict es)

variable {s : Store}

theorem forall₂_of_zip {α β : Type} {R : α → β → Prop} {vs : List α} {xs : List β}
    (length : vs.length = xs.length) (h : ∀ p ∈ vs.zip xs, R p.1 p.2) : List.Forall₂ R vs xs :=
  List.forall₂_iff_zip.mpr ⟨length, fun hp => h _ hp⟩

theorem forall₂_unique {α β : Type} {R : α → β → Prop} {vs : List α} {xs ys : List β}
    (h : List.Forall₂ (fun v x => ∀ y, R v y → x = y) vs xs) (k : List.Forall₂ R vs ys) :
    xs = ys := by
  induction h generalizing ys with
  | nil =>
      cases k
      rfl
  | cons hv _ ih =>
      cases k with
      | cons kv ks => rw [hv _ kv, ih ks]

theorem forall₂_partner {α β : Type} {R : α → β → Prop} {vs : List α} {xs : List β}
    (h : List.Forall₂ R vs xs) {w : α} (member : w ∈ vs) : ∃ x ∈ xs, R w x := by
  induction h with
  | nil => cases member
  | cons first _ ih =>
      obtain rfl | member := List.mem_cons.mp member
      · exact ⟨_, List.mem_cons_self, first⟩
      · obtain ⟨x, hx, related⟩ := ih member
        exact ⟨x, List.mem_cons_of_mem _ hx, related⟩

/-- A value holds one literal at most. -/
theorem Holds.unique {v l m} (h : s.Holds v l) (k : s.Holds v m) : l = m := by
  induction h generalizing m with
  | scalar =>
      cases k
      rfl
  | list ha length _ ih =>
      cases k with
      | list kb klength hs =>
          cases ha.symm.trans kb
          exact congrArg _ (forall₂_unique (forall₂_of_zip length fun p hp _ => ih p hp)
            (forall₂_of_zip klength hs))
      | tuple kb => cases ha.symm.trans kb
      | dict kb => cases ha.symm.trans kb
  | tuple ha length _ ih =>
      cases k with
      | list kb => cases ha.symm.trans kb
      | tuple kb klength hs =>
          cases ha.symm.trans kb
          exact congrArg _ (forall₂_unique (forall₂_of_zip length fun p hp _ => ih p hp)
            (forall₂_of_zip klength hs))
      | dict kb => cases ha.symm.trans kb
  | @dict a ps es ha length _ _ ihk ihv =>
      cases k with
      | list kb => cases ha.symm.trans kb
      | tuple kb => cases ha.symm.trans kb
      | dict kb klength ks hs =>
          cases ha.symm.trans kb
          have same := forall₂_unique
            (R := fun p e => s.Holds p.1 e.1 ∧ s.Holds p.2 e.2)
            (forall₂_of_zip length fun q hq f hf =>
              Prod.ext (ihk q hq hf.1) (ihv q hq hf.2))
            (forall₂_of_zip klength fun q hq => ⟨ks q hq, hs q hq⟩)
          exact congrArg _ same

theorem mem_of_zip {α β : Type} {vs : List α} {xs : List β} {p : α × β} (h : p ∈ vs.zip xs) :
    p.2 ∈ xs := (List.of_mem_zip h).2

theorem size_item {xs : List Literal} {x : Literal} (h : x ∈ xs) :
    sizeOf x < sizeOf (Literal.list xs) ∧ sizeOf x < sizeOf (Literal.tuple xs) := by
  have := List.sizeOf_lt_of_mem h
  simp only [Literal.list.sizeOf_spec, Literal.tuple.sizeOf_spec]
  omega

theorem size_entry {es : List (Literal × Literal)} {e : Literal × Literal} (h : e ∈ es) :
    sizeOf e.1 < sizeOf (Literal.dict es) ∧ sizeOf e.2 < sizeOf (Literal.dict es) := by
  obtain ⟨k, v⟩ := e
  have := List.sizeOf_lt_of_mem h
  simp only [Literal.dict.sizeOf_spec, Prod.mk.sizeOf_spec] at this ⊢
  omega

/-- Cells that hold more than a literal, as the cells around it do. -/
def Around (s : Store) (active : List Address) (l : Literal) : Prop :=
  ∀ b ∈ active, ∃ m, s.Holds (.ref b) m ∧ sizeOf l < sizeOf m

theorem Around.nil {l} : s.Around [] l := fun _ hb => by cases hb

theorem Around.fresh {active a l} (h : s.Around active l) (hl : s.Holds (.ref a) l) :
    a ∉ active := by
  intro ha
  obtain ⟨m, hm, size⟩ := h a ha
  rw [hl.unique hm] at size
  exact Nat.lt_irrefl _ size

theorem Around.enter {active a l x} (h : s.Around active l) (hl : s.Holds (.ref a) l)
    (hx : sizeOf x < sizeOf l) : s.Around (a :: active) x := by
  intro b hb
  rcases List.mem_cons.mp hb with rfl | hb
  · exact ⟨l, hl, hx⟩
  · obtain ⟨m, hm, size⟩ := h b hb
    exact ⟨m, hm, Nat.lt_trans hx size⟩

end Store

end Stencil

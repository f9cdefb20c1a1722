import Mathlib.Order.Bounds.Defs
import Stencil.Layout.Array
import Stencil.Proofs.Layout.Depth
import Stencil.Proofs.Reference.Settled

/-! # Brackets that nest

Counting brackets with a flag decides a grammar. The profile of a text calls it
balanced exactly if what stands outside of its quotes can be derived as text whose
brackets nest, and then the depth is that of the derivation, of which there is one
only. For any text at all the depth is the greatest height that a start of the
text has.
-/

namespace Stencil.Layout

/-- A derivation of text whose brackets nest: no text, another character in front of such text, or
    such text in brackets in front of such text. -/
inductive Nesting where
  | nothing
  | plain (c : Char) (other : c ≠ '[' ∧ c ≠ ']') (rest : Nesting)
  | bracket (inner rest : Nesting)

namespace Nesting

def text : Nesting → Text
  | nothing => []
  | plain c _ rest => c :: rest.text
  | bracket inner rest => '[' :: (inner.text ++ ']' :: rest.text)

/-- How many pairs of brackets stand in one another. -/
def depth : Nesting → Nat
  | nothing => 0
  | plain _ _ rest => rest.depth
  | bracket inner rest => max (inner.depth + 1) rest.depth

/-- A derivation ends where no bracket is left to be closed, so what is derived in front of a
    closing bracket, or of nothing, is derived in one way. -/
theorem text_unique {d e : Nesting} {u v : Text} (hu : ∀ c ∈ u.head?, c = ']')
    (hv : ∀ c ∈ v.head?, c = ']') (same : d.text ++ u = e.text ++ v) : d = e ∧ u = v := by
  induction d generalizing e u v with
  | nothing =>
      cases e with
      | nothing => exact ⟨rfl, same⟩
      | plain c other rest =>
          subst same
          exact absurd (hu c rfl) other.2
      | bracket inner rest =>
          subst same
          exact absurd (hu '[' rfl) (by decide)
  | plain c other rest ih =>
      cases e with
      | nothing =>
          simp only [text, List.nil_append] at same
          subst same
          exact absurd (hv c rfl) other.2
      | plain c' other' rest' =>
          obtain ⟨rfl, behind⟩ := List.cons.inj same
          obtain ⟨rfl, ends⟩ := ih hu hv behind
          exact ⟨rfl, ends⟩
      | bracket inner' rest' =>
          obtain ⟨rfl, -⟩ := List.cons.inj same
          exact absurd rfl other.1
  | bracket inner rest ihi ihr =>
      cases e with
      | nothing =>
          simp only [text, List.nil_append] at same
          subst same
          exact absurd (hv '[' rfl) (by decide)
      | plain c' other' rest' =>
          obtain ⟨rfl, -⟩ := List.cons.inj same
          exact absurd rfl other'.1
      | bracket inner' rest' =>
          simp only [text, List.cons_append, List.append_assoc, List.cons.injEq, true_and] at same
          obtain ⟨rfl, after⟩ := ihi (by simp) (by simp) same
          obtain ⟨rfl, ends⟩ := ihr hu hv (List.cons.inj after).2
          exact ⟨rfl, ends⟩

theorem text_injective {d e : Nesting} (same : d.text = e.text) : d = e := by
  have whole : d.text ++ [] = e.text ++ [] := by rw [same]
  exact (text_unique (by simp) (by simp) whole).1

end Nesting

/-! ## Profiles of unquoted characters -/

/-- Characters as they are scanned outside of quotes. -/
def bare (w : Text) : List (Char × Bool) := w.map fun c => (c, false)

theorem bare_cons (c : Char) (w : Text) : bare (c :: w) = (c, false) :: bare w := rfl

/-- What a character adds to the level. -/
def rise (c : Char) : Int := if c = '[' then 1 else if c = ']' then -1 else 0

/-- How many more brackets are opened than closed. -/
def height (w : Text) : Int := List.count '[' w - List.count ']' w

theorem height_cons (c : Char) (w : Text) : height (c :: w) = rise c + height w := by
  unfold height rise
  by_cases opening : c = '['
  · subst opening
    rw [List.count_cons_self, List.count_cons_of_ne (by decide), if_pos rfl]
    omega
  · by_cases closing : c = ']'
    · subst closing
      rw [List.count_cons_self, List.count_cons_of_ne (by decide), if_neg (by decide), if_pos rfl]
      omega
    · rw [List.count_cons_of_ne opening, List.count_cons_of_ne closing, if_neg opening,
        if_neg closing]
      omega

/-- Quoted characters do not count. -/
theorem profileFrom_bare (level : Int) (deepest : Nat) (sound : Bool) (p : Place) (t : Text) :
    profileFrom level deepest sound (scanFrom p t) =
      profileFrom level deepest sound (bare (bareFrom p t)) := by
  induction t generalizing level deepest sound p with
  | nil => rfl
  | cons c t ih =>
      rw [bareFrom_cons]
      cases quoted : p.quotes c with
      | true => simp only [scanFrom, quoted, profileFrom, if_true, ih]
      | false =>
          rw [if_neg Bool.false_ne_true, bare_cons]
          simp only [scanFrom, quoted, profileFrom, ih]

theorem profileFrom_plain {c : Char} (other : c ≠ '[' ∧ c ≠ ']') (level : Int) (deepest : Nat)
    (sound : Bool) (w : Text) :
    profileFrom level deepest sound (bare (c :: w)) =
      profileFrom level deepest sound (bare w) := by
  simp [bare, profileFrom, other.1, other.2]

/-- A character moves the level, and only a new level can be the deepest. -/
theorem profileFrom_step (level : Int) {deepest : Nat} (below : level ≤ deepest) (sound : Bool)
    (c : Char) (w : Text) : ∃ sound',
    profileFrom level deepest sound (bare (c :: w)) =
      profileFrom (level + rise c) (max deepest (level + rise c).toNat) sound' (bare w) := by
  by_cases opening : c = '['
  · subst opening
    exact ⟨sound, rfl⟩
  · by_cases closing : c = ']'
    · subst closing
      refine ⟨sound && 0 < level, ?_⟩
      have kept : max deepest (level + rise ']').toNat = deepest := by
        simp only [rise]
        simp
        omega
      rw [kept]
      rfl
    · refine ⟨sound, ?_⟩
      have kept : max deepest (level + rise c).toNat = deepest := by
        simp only [rise, if_neg opening, if_neg closing]
        omega
      rw [kept, profileFrom_plain ⟨opening, closing⟩]
      simp [rise, opening, closing]

/-! ## The depth is the greatest height -/

theorem prefix_cons_cases {c : Char} {u w : Text} (h : u <+: c :: w) :
    u = [] ∨ ∃ v, v <+: w ∧ u = c :: v := by
  cases u with
  | nil => exact .inl rfl
  | cons d v =>
      obtain ⟨rfl, part⟩ := List.cons_prefix_cons.mp h
      exact .inr ⟨v, part, rfl⟩

theorem height_le_depth {level : Int} {deepest : Nat} (below : level ≤ deepest) (sound : Bool)
    (w : Text) :
    deepest ≤ (profileFrom level deepest sound (bare w)).depth ∧
      ∀ u, u <+: w → level + height u ≤ (profileFrom level deepest sound (bare w)).depth := by
  induction w generalizing level deepest sound with
  | nil =>
      refine ⟨Nat.le_refl deepest, fun u hu => ?_⟩
      obtain rfl := List.prefix_nil.mp hu
      change level + 0 ≤ deepest
      rwa [Int.add_zero]
  | cons c w ih =>
      obtain ⟨sound', step⟩ := profileFrom_step level below sound c w
      have above : level + rise c ≤ (max deepest (level + rise c).toNat : Nat) := by omega
      obtain ⟨reached, heights⟩ := ih above sound'
      rw [step]
      refine ⟨by omega, fun u hu => ?_⟩
      obtain rfl | ⟨v, part, rfl⟩ := prefix_cons_cases hu
      · simp only [height, List.count_nil]
        omega
      · have := heights v part
        rw [height_cons]
        omega

theorem exists_deepest_prefix {level : Int} {deepest : Nat} (below : level ≤ deepest)
    (sound : Bool) (w : Text) :
    (profileFrom level deepest sound (bare w)).depth = deepest ∨
      ∃ u, u <+: w ∧ level + height u = (profileFrom level deepest sound (bare w)).depth := by
  induction w generalizing level deepest sound with
  | nil => exact .inl rfl
  | cons c w ih =>
      obtain ⟨sound', step⟩ := profileFrom_step level below sound c w
      have above : level + rise c ≤ (max deepest (level + rise c).toNat : Nat) := by omega
      rw [step]
      obtain deepest' | ⟨u, part, deepest'⟩ := ih above sound'
      · by_cases deeper : (deepest : Int) < level + rise c
        · refine .inr ⟨[c], by simp, ?_⟩
          rw [deepest', height_cons]
          simp only [height, List.count_nil]
          omega
        · exact .inl (by omega)
      · refine .inr ⟨c :: u, List.cons_prefix_cons.mpr ⟨rfl, part⟩, ?_⟩
        rw [← deepest', height_cons]
        omega

theorem bareFrom_prefix {p : Place} {t u : Text} (h : u <+: bareFrom p t) :
    ∃ v, v <+: t ∧ bareFrom p v = u := by
  induction t generalizing p u with
  | nil =>
      obtain rfl := List.prefix_nil.mp h
      exact ⟨[], List.prefix_rfl, rfl⟩
  | cons c t ih =>
      rw [bareFrom_cons] at h
      cases quoted : p.quotes c with
      | true =>
          rw [quoted, if_pos rfl] at h
          obtain ⟨v, start, rfl⟩ := ih h
          exact ⟨c :: v, List.cons_prefix_cons.mpr ⟨rfl, start⟩, by simp [bareFrom_cons, quoted]⟩
      | false =>
          rw [quoted, if_neg Bool.false_ne_true] at h
          obtain rfl | ⟨v, part, rfl⟩ := prefix_cons_cases h
          · exact ⟨[], List.nil_prefix, rfl⟩
          · obtain ⟨v, start, rfl⟩ := ih part
            exact ⟨c :: v, List.cons_prefix_cons.mpr ⟨rfl, start⟩, by simp [bareFrom_cons, quoted]⟩

theorem bareFrom_starts {t u : Text} (h : u <+: t) :
    bareFrom .outside u <+: bareFrom .outside t := by
  obtain ⟨v, rfl⟩ := h
  rw [bareFrom_append]
  exact List.prefix_append _ _

/-- The depth of a text is the greatest height that a start of it has outside of quotes. -/
theorem depth_greatest (t : Text) :
    IsGreatest {n : Int | ∃ u, u <+: t ∧ height (bareFrom .outside u) = n} (profile t).depth := by
  have below : (0 : Int) ≤ (0 : Nat) := Int.le_refl 0
  rw [profile, scan, profileFrom_bare]
  constructor
  · obtain none | ⟨u, part, reached⟩ := exists_deepest_prefix below true (bareFrom .outside t)
    · exact ⟨[], List.nil_prefix, by rw [none]; rfl⟩
    · obtain ⟨v, start, rfl⟩ := bareFrom_prefix part
      exact ⟨v, start, by omega⟩
  · rintro n ⟨u, part, rfl⟩
    have := (height_le_depth below true (bareFrom .outside t)).2 _ (bareFrom_starts part)
    omega

/-! ## Balanced text is derived text -/

theorem profileFrom_unsound (level : Int) (deepest : Nat) (cs : List (Char × Bool)) :
    (profileFrom level deepest false cs).balanced = false := by
  induction cs generalizing level deepest with
  | nil => rfl
  | cons x cs ih =>
      simp only [profileFrom, Bool.false_and]
      split
      · exact ih level deepest
      · split
        · exact ih _ _
        · split
          · exact ih _ _
          · exact ih _ _

/-- Derived text comes back to its level and goes as far above it as its brackets are deep. -/
theorem Nesting.profileFrom_text (d : Nesting) {level deepest : Nat} (below : level ≤ deepest)
    (sound : Bool) (w : Text) :
    profileFrom level deepest sound (bare (d.text ++ w)) =
      profileFrom level (max deepest (level + d.depth)) sound (bare w) := by
  induction d generalizing level deepest w with
  | nothing =>
      have kept : max deepest (level + 0) = deepest := by omega
      rw [depth, kept]
      rfl
  | plain c other rest ih =>
      rw [text, List.cons_append, profileFrom_plain other, ih below]
      rfl
  | bracket inner rest ihi ihr =>
      have reached : max (max (max deepest (level + 1)) (level + 1 + inner.depth))
          (level + rest.depth) = max deepest (level + max (inner.depth + 1) rest.depth) := by
        omega
      rw [text, List.cons_append, List.append_assoc, List.cons_append, bare_cons,
        profileFrom_opening, ihi (by omega), bare_cons, profileFrom_closing, ihr (by omega), reached,
        depth]

/-- Text that closes all the brackets open before it is derived text with those closing brackets in
    it, each with derived text behind it. -/
theorem exists_nestings (level : Nat) {deepest : Nat} {sound : Bool} {w : Text}
    (h : (profileFrom level deepest sound (bare w)).balanced = true) :
    ∃ (d : Nesting) (ds : List Nesting), ds.length = level ∧
      w = d.text ++ ds.flatMap fun e => ']' :: e.text := by
  induction w generalizing level deepest with
  | nil =>
      have closed : level = 0 := by
        have both : sound = true ∧ (level : Int) = 0 := by simpa [bare, profileFrom] using h
        omega
      exact ⟨.nothing, [], closed.symm, rfl⟩
  | cons c w ih =>
      by_cases opening : c = '['
      · subst opening
        rw [bare_cons, profileFrom_opening] at h
        obtain ⟨d, ds, length, rfl⟩ := ih _ h
        cases ds with
        | nil => cases length
        | cons e ds =>
            refine ⟨.bracket d e, ds, Nat.succ.inj length, ?_⟩
            simp [Nesting.text]
      · by_cases closing : c = ']'
        · subst closing
          cases level with
          | zero =>
              have unsound : profileFrom (0 : Nat) deepest sound (bare (']' :: w)) =
                  profileFrom (-1) deepest (sound && false) (bare w) := rfl
              rw [unsound, Bool.and_false, profileFrom_unsound] at h
              cases h
          | succ level =>
              rw [bare_cons, profileFrom_closing] at h
              obtain ⟨d, ds, rfl, rfl⟩ := ih _ h
              exact ⟨.nothing, d :: ds, rfl, rfl⟩
        · rw [profileFrom_plain ⟨opening, closing⟩] at h
          obtain ⟨d, ds, length, rfl⟩ := ih _ h
          exact ⟨.plain c ⟨opening, closing⟩ d, ds, length, rfl⟩

theorem Nesting.profile {d : Nesting} {t : Text} (derived : d.text = bareFrom .outside t) :
    profile t = ⟨d.depth, true⟩ := by
  have passed := d.profileFrom_text (Nat.le_refl 0) true []
  rw [List.append_nil, Nat.zero_add, Nat.zero_max] at passed
  rw [Layout.profile, scan, profileFrom_bare, ← derived]
  exact passed

theorem balanced_iff (t : Text) :
    (profile t).balanced = true ↔ ∃ d : Nesting, d.text = bareFrom .outside t := by
  constructor
  · intro h
    rw [profile, scan, profileFrom_bare] at h
    obtain ⟨d, ds, length, derived⟩ := exists_nestings 0 h
    obtain rfl := List.length_eq_zero_iff.mp length
    rw [List.flatMap_nil, List.append_nil] at derived
    exact ⟨d, derived.symm⟩
  · rintro ⟨d, derived⟩
    rw [d.profile derived]

/-- A text is called balanced exactly if its characters outside of quotes can be derived as text
    whose brackets nest. Then there is one derivation only, and its depth is that of the text. The
    depth of any text is the greatest height of a start of it, and laying a text out warns exactly
    about text that cannot be derived, whatever depth it is laid out for. -/
theorem profile_derivation (t : Text) :
    ((profile t).balanced = true ↔ ∃ d : Nesting, d.text = bareFrom .outside t) ∧
      (∀ d : Nesting, d.text = bareFrom .outside t →
        (profile t).depth = d.depth ∧ ∀ e : Nesting, e.text = bareFrom .outside t → e = d) ∧
      IsGreatest {n : Int | ∃ u, u <+: t ∧ height (bareFrom .outside u) = n} (profile t).depth ∧
      ∀ depth, (formatArray t depth).2.isSome ↔
        ¬∃ d : Nesting, d.text = bareFrom .outside t := by
  refine ⟨balanced_iff t, fun d derived => ⟨?_, fun e same => ?_⟩, depth_greatest t,
    fun depth => ?_⟩
  · rw [d.profile derived]
  · exact Nesting.text_injective (same.trans derived.symm)
  · rw [← balanced_iff, formatArray, imbalance?]
    cases (profile t).balanced with
    | true => simp
    | false => simp

/-- Brackets in brackets, with a closing one in quotes, and the same text with nothing to close the
    first bracket. -/
theorem profile_derivation_quoted :
    let t : Text := "[['\\']'], x]"
    let d : Nesting := .bracket (.bracket .nothing (.plain ',' (by decide)
      (.plain ' ' (by decide) (.plain 'x' (by decide) .nothing)))) .nothing
    d.text = bareFrom .outside t ∧ (profile t).depth = 2 ∧ (profile t).balanced = true ∧
      (formatArray t.dropLast none).2.isSome ∧
      ¬∃ e : Nesting, e.text = bareFrom .outside t.dropLast := by
  intro t d
  have derived : d.text = bareFrom .outside t := rfl
  have warned : (formatArray t.dropLast none).2.isSome := rfl
  obtain ⟨balanced, depth, -, -⟩ := profile_derivation t
  obtain ⟨-, -, -, warns⟩ := profile_derivation t.dropLast
  exact ⟨derived, (depth d derived).1, balanced.mpr ⟨d, derived⟩, warned, (warns none).mp warned⟩

end Stencil.Layout

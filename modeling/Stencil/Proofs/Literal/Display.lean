import Mathlib.Data.List.Forall2
import Stencil.Proofs.Literal.Grammar

/-! # Displayed literals read back

Plain literals are those that are shown by text that denotes them: no floats, no
sets and no ellipsis, and in dictionaries only keys that can be looked up, no two
of them the same. Their text is one line of visible characters.
-/

namespace Stencil.Literal

open Layout

/-- Literals that are made of constants, integers, texts and bytes by lists, tuples and
    dictionaries. -/
inductive Plain : Literal → Prop where
  | none : Plain (.scalar .none)
  | bool (b : Bool) : Plain (.scalar (.bool b))
  | int (i : Int) : Plain (.scalar (.int i))
  | text (t : Text) : Plain (.scalar (.text t))
  | bytes (bs : List UInt8) : Plain (.scalar (.bytes bs))
  | list {xs} : (∀ x ∈ xs, Plain x) → Plain (.list xs)
  | tuple {xs} : (∀ x ∈ xs, Plain x) → Plain (.tuple xs)
  | dict {es} : Keyed es → (∀ e ∈ es, Plain e.1) → (∀ e ∈ es, Plain e.2) → Plain (.dict es)

/-! ## Elements on one line -/

theorem displayAll_eq (xs : List Literal) :
    displayAll xs = Text.joinWith ", " (xs.map display) := by
  induction xs with
  | nil => rfl
  | cons x xs ih =>
      cases xs with
      | nil => rfl
      | cons y xs =>
          rw [displayAll, ih]
          rfl

theorem displayEntries_eq (es : List (Literal × Literal)) :
    displayEntries es =
      Text.joinWith ", " (es.map fun e => display e.1 ++ ": " ++ display e.2) := by
  induction es with
  | nil => rfl
  | cons e es ih =>
      cases es with
      | nil => rfl
      | cons f es =>
          rw [displayEntries, ih]
          rfl

/-- The comma that a tuple of one element has behind it. -/
def lastComma : List Literal → Text
  | [_] => [',']
  | _ => []

theorem mem_lastComma {xs : List Literal} {c} (h : c ∈ lastComma xs) : c = ',' := by
  rw [lastComma.eq_def] at h
  split at h
  · exact List.mem_singleton.mp h
  · cases h

theorem display_tuple (xs : List Literal) :
    display (.tuple xs) = '(' :: (displayAll xs ++ lastComma xs ++ [')']) := by
  cases xs with
  | nil => rfl
  | cons x xs =>
      cases xs with
      | nil => simp [display, displayAll, lastComma]
      | cons y xs => simp [display, lastComma]

theorem DenotesItems.commas {ws xs} (h : List.Forall₂ Denotes ws xs) :
    DenotesItems (Text.joinWith ", " ws) xs xs.isEmpty := by
  induction h with
  | nil => exact .none
  | @cons w x ws xs hx hs ih =>
      cases hs with
      | nil => exact .last hx
      | @cons v y ws xs hy hs =>
          have rest := ih.padded (g := [' ']) (h := []) (by simp [isSpacer]) (by simp)
          have : Text.joinWith ", " (w :: v :: ws) =
              w ++ ',' :: ([' '] ++ Text.joinWith ", " (v :: ws) ++ []) := by
            simp [Text.joinWith]
          rw [this]
          exact .more hx rest

theorem DenotesEntries.commas {ps : List (Text × Text)} {es}
    (h : List.Forall₂ (fun p e => Denotes p.1 e.1 ∧ Denotes p.2 e.2) ps es) :
    DenotesEntries (Text.joinWith ", " (ps.map fun p => p.1 ++ ": " ++ p.2)) es := by
  induction h with
  | nil => exact .none
  | @cons p e ps es he hs ih =>
      cases hs with
      | nil =>
          have := DenotesEntries.last he.1 he.2
          simpa [Text.joinWith] using this
      | @cons q f ps es hf hs =>
          have rest := ih.padded (g := [' ']) (h := []) (by simp [isSpacer]) (by simp)
          have := DenotesEntries.more he.1 he.2 rest
          simpa [Text.joinWith] using this

theorem DenotesItems.displayAll {xs : List Literal} (h : ∀ x ∈ xs, Denotes x.display x) :
    DenotesItems (displayAll xs) xs xs.isEmpty := by
  rw [displayAll_eq]
  exact .commas (List.forall₂_map_left_iff.mpr (List.forall₂_same.mpr h))

theorem DenotesEntries.displayEntries {es : List (Literal × Literal)}
    (hk : ∀ e ∈ es, Denotes e.1.display e.1) (hv : ∀ e ∈ es, Denotes e.2.display e.2) :
    DenotesEntries (displayEntries es) es := by
  have shown : List.Forall₂ (fun p e => Denotes p.1 e.1 ∧ Denotes p.2 e.2)
      (es.map fun e => (e.1.display, e.2.display)) es :=
    List.forall₂_map_left_iff.mpr (List.forall₂_same.mpr fun e he => ⟨hk e he, hv e he⟩)
  have entries := DenotesEntries.commas shown
  rw [List.map_map] at entries
  rw [displayEntries_eq]
  exact entries

/-- The comma behind a single element is what makes it a tuple. -/
theorem Denotes.tuple {xs : List Literal} (h : ∀ x ∈ xs, Denotes x.display x) :
    Denotes (display (.tuple xs)) (.tuple xs) := by
  have items := DenotesItems.displayAll h
  rw [display_tuple]
  cases xs with
  | nil => exact items.tuple (.inl rfl)
  | cons x xs =>
      cases xs with
      | nil => exact items.comma.tuple (.inl rfl)
      | cons y xs =>
          rw [lastComma, List.append_nil]
          · exact items.tuple (.inr (by simp))
          · simp

theorem Plain.denotes {l} (h : Plain l) : Denotes l.display l := by
  induction h with
  | none => exact denotes_none
  | bool b =>
      cases b with
      | false => exact denotes_bool false
      | true => exact denotes_bool true
  | int i =>
      cases i with
      | ofNat n => exact denotes_natural n
      | negSucc n => exact denotes_negative n
  | text t => exact denotes_text t
  | bytes bs => exact denotes_bytes bs
  | list _ ih =>
      rw [display]
      exact (DenotesItems.displayAll ih).list
  | tuple _ ih => exact .tuple ih
  | dict keyed _ _ ihk ihv =>
      rw [display]
      exact (DenotesEntries.displayEntries ihk ihv).dict keyed

/-! ## Elements on a line of their own -/

theorem joinWith_lines (opening closing : Text) (ls : List Text) :
    Text.joinWith "\n" (opening :: ls ++ [closing]) =
      opening ++ (ls.flatMap fun l => '\n' :: l) ++ '\n' :: closing := by
  induction ls generalizing opening with
  | nil => simp [Text.joinWith]
  | cons l ls ih =>
      have rest := ih l
      rw [List.cons_append] at rest ⊢
      simp only [List.cons_append, Text.joinWith, rest]
      simp

theorem line_spacers {g : Text} (hg : ∀ c ∈ g, isSpacer c) : ∀ c ∈ '\n' :: g, isSpacer c :=
  List.forall_mem_cons.mpr ⟨rfl, hg⟩

theorem DenotesItems.lines {g h ws xs} (hg : ∀ c ∈ g, isSpacer c) (hh : ∀ c ∈ h, isSpacer c)
    (hx : List.Forall₂ Denotes ws xs) :
    DenotesItems ((ws.flatMap fun w => '\n' :: (g ++ w ++ [','])) ++ '\n' :: h) xs true := by
  induction hx with
  | nil =>
      have := DenotesItems.none.padded (line_spacers hh) (h := []) (by simp)
      simpa using this
  | cons hx _ ih =>
      have := (DenotesItems.more hx ih).padded (line_spacers hg) (h := []) (by simp)
      simpa using this

theorem DenotesEntries.lines {g h es} {ps : List (Text × Text)} (hg : ∀ c ∈ g, isSpacer c)
    (hh : ∀ c ∈ h, isSpacer c)
    (hx : List.Forall₂ (fun p e => Denotes p.1 e.1 ∧ Denotes p.2 e.2) ps es) :
    DenotesEntries ((ps.flatMap fun p => '\n' :: (g ++ (p.1 ++ ": ") ++ p.2 ++ [','])) ++ '\n' :: h)
      es := by
  induction hx with
  | nil =>
      have := DenotesEntries.none.padded (line_spacers hh) (h := []) (by simp)
      simpa using this
  | cons hx _ ih =>
      have := (DenotesEntries.more hx.1 hx.2 ih).padded (line_spacers hg) (h := []) (by simp)
      simpa using this

/-! ## One line of visible characters -/

theorem mem_joinWith {sep : Text} {ts : List Text} {c : Char} (h : c ∈ Text.joinWith sep ts) :
    c ∈ sep ∨ ∃ t ∈ ts, c ∈ t := by
  induction ts with
  | nil => cases h
  | cons t ts ih =>
      cases ts with
      | nil => exact .inr ⟨t, by simp, h⟩
      | cons u ts =>
          simp only [Text.joinWith, List.mem_append] at h
          rcases h with (h | h) | h
          · exact .inr ⟨t, by simp, h⟩
          · exact .inl h
          · rcases ih h with h | ⟨v, hv, h⟩
            · exact .inl h
            · exact .inr ⟨v, by simp [hv], h⟩

theorem printable_commas {ts : List Text} (h : ∀ t ∈ ts, ∀ c ∈ t, isPrintable c) :
    ∀ c ∈ Text.joinWith ", " ts, isPrintable c := by
  have sep : ∀ c ∈ (", " : Text), isPrintable c := List.all_eq_true.mp (by decide)
  intro c hc
  rcases mem_joinWith hc with hc | ⟨t, ht, hc⟩
  · exact sep c hc
  · exact h t ht c hc

theorem printable_between {o c : Char} {t : Text} (ho : isPrintable o) (hc : isPrintable c)
    (h : ∀ e ∈ t, isPrintable e) : ∀ e ∈ o :: (t ++ [c]), isPrintable e :=
  List.forall_mem_cons.mpr ⟨ho, List.forall_mem_append.mpr ⟨h, by simpa using hc⟩⟩

theorem Plain.printable {l} (h : Plain l) : ∀ c ∈ l.display, isPrintable c := by
  induction h with
  | none => exact lexeme_none.printable
  | bool b =>
      cases b with
      | false => exact (lexeme_bool false).printable
      | true => exact (lexeme_bool true).printable
  | int i =>
      cases i with
      | ofNat n => exact (lexeme_number n).printable
      | negSucc n => exact List.forall_mem_cons.mpr ⟨rfl, (lexeme_number (n + 1)).printable⟩
  | text t => exact (lexeme_quoted t).printable
  | bytes bs => exact (lexeme_bytes bs).printable
  | list _ ih =>
      have items := printable_commas (List.forall_mem_map.mpr ih)
      rw [display, displayAll_eq]
      exact printable_between rfl rfl items
  | @tuple xs _ ih =>
      have items := printable_commas (List.forall_mem_map.mpr ih)
      have comma : ∀ c ∈ lastComma xs, isPrintable c := by
        intro c hc
        rw [mem_lastComma hc]
        rfl
      rw [display_tuple, displayAll_eq]
      exact printable_between rfl rfl (List.forall_mem_append.mpr ⟨items, comma⟩)
  | @dict es _ _ _ ihk ihv =>
      have colon : ∀ c ∈ (": " : Text), isPrintable c := List.all_eq_true.mp (by decide)
      have entries := printable_commas (List.forall_mem_map.mpr fun e he =>
        List.forall_mem_append.mpr ⟨List.forall_mem_append.mpr ⟨ihk e he, colon⟩, ihv e he⟩)
      rw [display, displayEntries_eq]
      exact printable_between rfl rfl entries

end Stencil.Literal

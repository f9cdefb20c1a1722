import Mathlib.Data.List.TakeWhile
import Stencil.Template

/-! # What a placeholder is

A placeholder is text in braces without further braces, its parentheses balanced,
whose part before the first colon outside of parentheses is the text of a
reference. This is said by counting parentheses, without going through the text,
and the scanner, the split at the colon and the making of the placeholder agree
with it.
-/

namespace Stencil.Template

/-- How many parentheses are open behind a text. -/
def level (t : Text) : Int := List.count '(' t - List.count ')' t

/-- Text whose parentheses are balanced: no start of it closes more than it opens. -/
structure Balanced (t : Text) : Prop where
  never_negative : ∀ p, p <+: t → 0 ≤ level p
  closed : level t = 0

/-- No colon stands outside of parentheses. -/
def NoColon (t : Text) : Prop := ∀ p u, t = p ++ ':' :: u → level p ≠ 0

/-- A body cut at its first colon outside of parentheses, or not cut when there is none. -/
def Splits (body front : Text) (spec : Option Text) : Prop :=
  NoColon front ∧
    match spec with
    | none => body = front
    | some s => body = front ++ ':' :: s ∧ level front = 0

/-- A placeholder, what stands between its braces, and what is read out of it. -/
structure Parts (raw body front : Text) (spec : Option Text) (reference : Reference) : Prop where
  braces : raw = '\x7b' :: (body ++ ['\x7d'])
  braceless : ∀ c ∈ body, c ≠ '\x7b' ∧ c ≠ '\x7d'
  balanced : Balanced body
  split : Splits body front spec
  visible : Text.trim front ≠ []
  read : Reference.read (Text.trim front) = .ok reference

def IsPlaceholder (raw : Text) : Prop :=
  ∃ body front spec reference, Parts raw body front spec reference

/-! ## Levels -/

/-- What a character adds to the level. -/
def delta (c : Char) : Int := if c = '(' then 1 else if c = ')' then -1 else 0

theorem level_cons (c : Char) (t : Text) : level (c :: t) = delta c + level t := by
  simp only [level, delta, List.count_cons, beq_iff_eq]
  split
  · subst c
    simp
    omega
  · split
    · subst c
      simp
      omega
    · simp

/-- Text that closes the `d` parentheses that are open in front of it, and all its own. -/
structure Closes (d : Nat) (t : Text) : Prop where
  never_negative : ∀ p, p <+: t → 0 ≤ d + level p
  closed : d + level t = 0

theorem closes_zero {t} : Closes 0 t ↔ Balanced t := by
  constructor
  · intro h
    exact ⟨fun p hp => by simpa using h.never_negative p hp, by simpa using h.closed⟩
  · intro h
    exact ⟨fun p hp => by simpa using h.never_negative p hp, by simpa using h.closed⟩

/-- What no start of a text goes below, said behind its first character. -/
theorem above_cons {d : Nat} {c : Char} {t : Text} :
    (∀ p, p <+: c :: t → 0 ≤ d + level p) ↔
      ∃ e : Nat, (e : Int) = d + delta c ∧ ∀ p, p <+: t → 0 ≤ e + level p := by
  constructor
  · intro h
    have first := h [c] (by simp)
    rw [level_cons] at first
    have zero : level [] = 0 := rfl
    refine ⟨(d + delta c).toNat, by omega, fun p hp => ?_⟩
    have := h (c :: p) (by simpa using hp)
    rw [level_cons] at this
    omega
  · rintro ⟨e, he, h⟩ p hp
    rcases List.prefix_cons_iff.mp hp with rfl | ⟨q, rfl, hq⟩
    · simp [level]
    · have := h q hq
      rw [level_cons]
      omega

theorem closes_cons {d c t} :
    Closes d (c :: t) ↔ ∃ e : Nat, (e : Int) = d + delta c ∧ Closes e t := by
  constructor
  · intro h
    obtain ⟨e, he, above⟩ := above_cons.mp h.never_negative
    have := h.closed
    rw [level_cons] at this
    exact ⟨e, he, above, by omega⟩
  · rintro ⟨e, he, h⟩
    refine ⟨above_cons.mpr ⟨e, he, h.never_negative⟩, ?_⟩
    have := h.closed
    rw [level_cons]
    omega

/-! ## The scanner -/

theorem onward_ok {c : Char} {r : Except (TemplateFault × Text) (Text × Text)} {body rest : Text} :
    (match r with
      | .ok (body, rest) => .ok (c :: body, rest)
      | .error (f, seen) => .error (f, c :: seen)) =
        (.ok (body, rest) : Except (TemplateFault × Text) (Text × Text)) ↔
      ∃ b, body = c :: b ∧ r = .ok (b, rest) := by
  cases r with
  | error e => simp
  | ok r =>
      obtain ⟨b, more⟩ := r
      simp only [Except.ok.injEq, Prod.mk.injEq]
      constructor
      · rintro ⟨rfl, rfl⟩
        exact ⟨b, rfl, rfl, rfl⟩
      · rintro ⟨_, rfl, rfl, rfl⟩
        exact ⟨rfl, rfl⟩

/-- A body in front of the brace that closes it, `d` parentheses being open before it. -/
structure Enclosed (d : Nat) (t body rest : Text) : Prop where
  text : t = body ++ '\x7d' :: rest
  braceless : ∀ c ∈ body, c ≠ '\x7b' ∧ c ≠ '\x7d'
  closes : Closes d body

theorem enclosed_cons {d e : Nat} {c t body rest} (he : (e : Int) = d + delta c)
    (hc : c ≠ '\x7b' ∧ c ≠ '\x7d') :
    Enclosed d (c :: t) body rest ↔ ∃ b, body = c :: b ∧ Enclosed e t b rest := by
  constructor
  · rintro ⟨text, braceless, closes⟩
    cases body with
    | nil => exact absurd (List.cons.inj text).1 hc.2
    | cons b body =>
        obtain ⟨rfl, rfl⟩ := List.cons.inj text
        obtain ⟨e', he', closes⟩ := closes_cons.mp closes
        obtain rfl : e' = e := by omega
        exact ⟨body, rfl, rfl, (List.forall_mem_cons.mp braceless).2, closes⟩
  · rintro ⟨b, rfl, rfl, braceless, closes⟩
    exact ⟨rfl, List.forall_mem_cons.mpr ⟨hc, braceless⟩, closes_cons.mpr ⟨e, he, closes⟩⟩

/-- A brace is the end of a body or does not stand in front of it. -/
theorem Enclosed.brace {d c t body rest} (h : Enclosed d (c :: t) body rest)
    (hc : c = '\x7b' ∨ c = '\x7d') : c = '\x7d' ∧ d = 0 ∧ body = [] ∧ t = rest := by
  obtain ⟨text, braceless, closes⟩ := h
  cases body with
  | nil =>
      obtain ⟨rfl, rfl⟩ := List.cons.inj text
      have := closes.closed
      have zero : level [] = 0 := rfl
      exact ⟨rfl, by omega, rfl, rfl⟩
  | cons b body =>
      obtain ⟨rfl, -⟩ := List.cons.inj text
      exact absurd hc (not_or.mpr (braceless c (by simp)))

theorem enclosed_end {t : Text} : Enclosed 0 ('\x7d' :: t) [] t :=
  ⟨rfl, by simp, closes_zero.mpr ⟨by simp [level], rfl⟩⟩

theorem not_enclosed_closing {t body rest} : ¬ Enclosed 0 (')' :: t) body rest := by
  rintro ⟨text, -, closes⟩
  cases body with
  | nil => cases text
  | cons b body =>
      obtain ⟨rfl, -⟩ := List.cons.inj text
      obtain ⟨e, he, -⟩ := closes_cons.mp closes
      simp [delta] at he

/-- The scanner stops behind the brace that ends a braceless body with balanced parentheses. -/
theorem scanBody_iff {d t body rest} :
    scanBody d t = .ok (body, rest) ↔ Enclosed d t body rest := by
  induction t generalizing d body rest with
  | nil =>
      simp only [scanBody, reduceCtorEq, false_iff]
      rintro ⟨text, -, -⟩
      cases body <;> cases text
  | cons c t ih =>
      have next : ∀ e : Nat, (e : Int) = d + delta c → c ≠ '\x7b' ∧ c ≠ '\x7d' →
          ((∃ b, body = c :: b ∧ scanBody e t = .ok (b, rest)) ↔
            Enclosed d (c :: t) body rest) := by
        intro e he hc
        simp only [enclosed_cons he hc, ih]
      -- the cases are those of the scanner, in its order
      simp only [scanBody]
      split
      · subst c
        simp only [reduceCtorEq, false_iff]
        intro h
        cases (h.brace (.inl rfl)).1
      · rename_i brace
        split
        · subst c
          exact onward_ok.trans (next (d + 1) (by simp [delta]) (by decide))
        · rename_i opens
          split
          · subst c
            split
            · subst d
              simp [not_enclosed_closing]
            · refine onward_ok.trans (next (d - 1) ?_ (by decide))
              simp [delta]
              omega
          · rename_i closing
            split
            · subst c
              split
              · subst d
                simp only [Except.ok.injEq, Prod.mk.injEq]
                constructor
                · rintro ⟨rfl, rfl⟩
                  exact enclosed_end
                · intro h
                  obtain ⟨-, -, empty, behind⟩ := h.brace (.inr rfl)
                  exact ⟨empty.symm, behind⟩
              · rename_i deep
                simp only [reduceCtorEq, false_iff]
                intro h
                exact deep (h.brace (.inr rfl)).2.1
            · rename_i close
              have zero : delta c = 0 := by simp [delta, opens, closing]
              exact onward_ok.trans (next d (by omega) ⟨brace, close⟩)

/-! ## The split -/

/-- A cut at the first colon that `d` parentheses in front of the text do not count for. -/
def SplitsFrom (d : Nat) (body front : Text) (spec : Option Text) : Prop :=
  (∀ p u, front = p ++ ':' :: u → d + level p ≠ 0) ∧
    match spec with
    | none => body = front
    | some s => body = front ++ ':' :: s ∧ d + level front = 0

theorem SplitsFrom.head {d c t b f spec} (h : SplitsFrom d (c :: t) (b :: f) spec) : b = c := by
  cases spec with
  | none => exact (List.cons.inj h.2).1.symm
  | some s => exact (List.cons.inj h.2.1).1.symm

theorem splitsFrom_nil {d front spec} : SplitsFrom d [] front spec ↔ front = [] ∧ spec = none := by
  constructor
  · rintro ⟨-, cut⟩
    cases spec with
    | none => exact ⟨cut.symm, rfl⟩
    | some s => simp at cut
  · rintro ⟨rfl, rfl⟩
    exact ⟨by simp, rfl⟩

theorem splitsFrom_colon {t front spec} :
    SplitsFrom 0 (':' :: t) front spec ↔ front = [] ∧ spec = some t := by
  constructor
  · intro h
    cases front with
    | nil =>
        cases spec with
        | none => cases h.2
        | some s => exact ⟨rfl, congrArg some (List.cons.inj h.2.1).2.symm⟩
    | cons b f =>
        obtain rfl := h.head
        exact absurd rfl (h.1 [] f rfl)
  · rintro ⟨rfl, rfl⟩
    exact ⟨by simp, rfl, rfl⟩

theorem splitsFrom_cons {d e : Nat} {c t front spec} (he : (e : Int) = d + delta c)
    (hc : ¬ (c = ':' ∧ d = 0)) : SplitsFrom d (c :: t) front spec ↔
      ∃ f, front = c :: f ∧ SplitsFrom e t f spec := by
  have levels : ∀ p, d + level (c :: p) = e + level p := by
    intro p
    rw [level_cons]
    omega
  constructor
  · intro h
    cases front with
    | nil =>
        cases spec with
        | none => cases h.2
        | some s =>
            obtain ⟨text, zero⟩ := h.2
            cases text
            exact absurd ⟨rfl, by simpa [level] using zero⟩ hc
    | cons b f =>
        obtain rfl := h.head
        obtain ⟨colon, cut⟩ := h
        refine ⟨f, rfl, fun p u h => ?_, ?_⟩
        · rw [← levels]
          exact colon (b :: p) u (by rw [h]; rfl)
        · cases spec with
          | none => exact (List.cons.inj cut).2
          | some s => exact ⟨(List.cons.inj cut.1).2, by rw [← levels]; exact cut.2⟩
  · rintro ⟨f, rfl, colon, cut⟩
    refine ⟨fun p u h => ?_, ?_⟩
    · cases p with
      | nil =>
          intro zero
          exact hc ⟨(List.cons.inj h).1, by simpa [level] using zero⟩
      | cons b p =>
          obtain ⟨rfl, rest⟩ := List.cons.inj h
          rw [levels]
          exact colon p u rest
    · cases spec with
      | none => exact congrArg _ cut
      | some s => exact ⟨congrArg _ cut.1, by rw [levels]; exact cut.2⟩

/-- The depth behind a character is what the level says there. -/
theorem depth_eq {d e : Nat} {c : Char} (h : (e : Int) = d + delta c) :
    (if c = '(' then d + 1 else if c = ')' then d - 1 else d) = e := by
  simp only [delta] at h
  split at h
  · rw [if_pos ‹_›]
    omega
  · rw [if_neg ‹_›]
    split at h
    · rw [if_pos ‹_›]
      omega
    · rw [if_neg ‹_›]
      omega

theorem splitSpec_from {d : Nat} {body front : Text} {spec : Option Text}
    (h : ∀ p, p <+: body → 0 ≤ d + level p) :
    splitSpec d body = (front, spec) ↔ SplitsFrom d body front spec := by
  induction body generalizing d front with
  | nil => simp [splitSpec, splitsFrom_nil, eq_comm]
  | cons c t ih =>
      rw [splitSpec]
      split
      · rename_i hc
        obtain ⟨rfl, rfl⟩ := hc
        simp [splitsFrom_colon, eq_comm]
      · rename_i hc
        obtain ⟨e, he, above⟩ := above_cons.mp h
        rw [splitsFrom_cons he hc, depth_eq he]
        constructor
        · intro cut
          obtain ⟨rfl, rfl⟩ := Prod.mk.inj cut
          exact ⟨_, rfl, (ih above).mp rfl⟩
        · rintro ⟨f, rfl, cut⟩
          simp only [(ih above).mpr cut]

theorem splitSpec_iff {body front spec} (h : Balanced body) :
    splitSpec 0 body = (front, spec) ↔ Splits body front spec := by
  have start : splitSpec 0 body = (front, spec) ↔ SplitsFrom 0 body front spec :=
    splitSpec_from fun p hp => by simpa using h.never_negative p hp
  rw [start]
  simp [SplitsFrom, Splits, NoColon]

/-! ## Making a placeholder -/

theorem trim_blank {t : Text} (h : Text.isBlank t) : Text.trim t = [] := by
  have start : Text.trimStart t = [] := List.dropWhile_eq_nil_iff.mpr (List.all_eq_true.mp h)
  rw [Text.trim, start]
  rfl

theorem Splits.blank {body front spec} (h : Splits body front spec) (hb : Text.isBlank body) :
    Text.isBlank front := by
  have hb := List.all_eq_true.mp hb
  refine List.all_eq_true.mpr fun c hc => hb c ?_
  cases spec with
  | none => exact h.2 ▸ hc
  | some s =>
      rw [h.2.1]
      exact List.mem_append_left _ hc

/-- A body makes a placeholder exactly when its parts are there, and they are what is kept. -/
theorem placeholder_iff {body position p} (braceless : ∀ c ∈ body, c ≠ '\x7b' ∧ c ≠ '\x7d')
    (balanced : Balanced body) : placeholder body position = .ok p ↔
      ∃ front, Parts p.raw body front p.spec p.reference ∧ p.expression = Text.trim front ∧
        p.position = position := by
  cases cut : splitSpec 0 body with
  | mk front spec =>
      have splits := (splitSpec_iff balanced).mp cut
      rw [placeholder, cut]
      constructor
      · intro made
        split at made
        · cases made
        · simp only at made
          split at made
          · cases made
          · rename_i visible
            split at made
            · cases made
            · rename_i read
              cases made
              exact ⟨front, ⟨rfl, braceless, balanced, splits, visible, read⟩, rfl, rfl⟩
      · rintro ⟨front', parts, expression, place⟩
        obtain ⟨rfl, spec_eq⟩ : front = front' ∧ spec = p.spec := by
          have cut' := (splitSpec_iff balanced).mpr parts.split
          rw [cut] at cut'
          exact Prod.mk.inj cut'
        have shown : ¬ Text.isBlank body := fun blank =>
          parts.visible (trim_blank (splits.blank blank))
        obtain ⟨raw, expression', spec', position', reference⟩ := p
        simp only at parts expression place spec_eq
        rw [if_neg shown]
        simp only [parts.visible, if_false, parts.read, parts.braces, expression, place, spec_eq]
        rfl

/-- A placeholder has one body, one cut and one reference. -/
theorem Parts.unique {raw body body' front front' spec spec' reference reference'}
    (h : Parts raw body front spec reference) (k : Parts raw body' front' spec' reference') :
    body = body' ∧ front = front' ∧ spec = spec' ∧ reference = reference' := by
  have same : body = body' := by
    have braces := h.braces.symm.trans k.braces
    simpa using braces
  subst same
  have cut := ((splitSpec_iff h.balanced).mpr h.split).symm.trans
    ((splitSpec_iff h.balanced).mpr k.split)
  obtain ⟨rfl, rfl⟩ := Prod.mk.inj cut
  exact ⟨rfl, rfl, rfl, Except.ok.inj (h.read.symm.trans k.read)⟩

end Stencil.Template

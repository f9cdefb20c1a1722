import Mathlib.Data.List.Basic
import Stencil.Proofs.Layout.Visible
import Stencil.Proofs.Text.Characters
import Stencil.Proofs.Text.Trim

/-! # Taking the line breaks back

The pass that breaks lines by nesting puts in line breaks with padding and
changes nothing else, and where it has put them in can be seen from what it
gives: behind an inner opening bracket, before a closing one, and behind a comma
that a bracket follows. `rejoinFrom` goes over the layout with the same count of
open brackets and leaves these breaks out. A line break of the text itself is
never taken for one of them, wherever it stands.
-/

namespace Stencil.Layout

/-- A text and the same with line breaks and padding put in. -/
inductive Broken : Text → Text → Prop where
  | nil : Broken [] []
  | keep {t u : Text} (c : Char) : Broken t u → Broken (c :: t) (c :: u)
  | lineBreak {t u : Text} (width : Nat) :
      Broken t u → Broken t ('\n' :: (List.replicate width ' ' ++ u))

/-- Whether a layout goes on with the break before a closing bracket, `level` brackets being open. -/
def closesNext (indent level : Int) (t : Text) : Bool :=
  level - 1 ≥ 1 && (breakTo indent (level - 1) ++ [']']).isPrefixOf t

/-- The text of a layout from a place on, `skip` characters of a break still to be left out and
    `level` brackets being open. -/
def rejoinFrom (indent : Int) (skip : Nat) (level : Int) (p : Place) : Text → Text
  | [] => []
  | c :: t =>
      match skip with
      | skip + 1 => rejoinFrom indent skip level p t
      | 0 =>
          let next := p.after c
          if p.quotes c then c :: rejoinFrom indent 0 level next t
          else if c == '[' then
            c :: rejoinFrom indent (if level + 1 > 1 then (breakTo indent level).length else 0)
              (level + 1) next t
          else if c == ']' then c :: rejoinFrom indent 0 (level - 1) next t
          else if c == ',' then
            c :: rejoinFrom indent (if opensNext t then (breakTo indent (max level 0)).length else 0)
              level next t
          else if closesNext indent level (c :: t) then
            -- the character is the line feed of the break
            rejoinFrom indent ((breakTo indent (level - 1)).length - 1) level p t
          else c :: rejoinFrom indent 0 level next t

/-- The text that a layout was made from. -/
def rejoin (t : Text) (indent : Int) : Text := rejoinFrom indent 0 0 .outside t

variable {indent level : Int} {p : Place}

/-! ## What is put in -/

theorem Broken.breakTo {t u : Text} (h : Broken t u) (indent level : Int) :
    Broken t (breakTo indent level ++ u) := h.lineBreak _

theorem Broken.ite {t u g : Text} {b : Prop} [Decidable b] (h : Broken t u)
    (k : Broken t (g ++ u)) : Broken t ((if b then g else []) ++ u) := by
  split
  · exact k
  · exact h

theorem nestedFrom_broken (indent level : Int) (p : Place) (t : Text) :
    Broken t (nestedFrom indent level p t) := by
  induction t generalizing level p with
  | nil => exact .nil
  | cons c t ih =>
      simp only [nestedFrom]
      split
      · exact .keep c (ih ..)
      · split
        · exact .keep c ((ih ..).ite ((ih ..).breakTo ..))
        · split
          · exact (Broken.keep c (ih ..)).ite ((Broken.keep c (ih ..)).breakTo ..)
          · split
            · exact .keep c ((ih ..).ite ((ih ..).breakTo ..))
            · exact .keep c (ih ..)

/-! ## What stands where in a layout -/

theorem opensNext_blanks {g : Text} (hg : ∀ c ∈ g, isBlank c) (t : Text) :
    opensNext (g ++ t) = opensNext t := by
  rw [opensNext, Text.trimStart_blanks hg, opensNext]

theorem opensNext_visible {c : Char} (hc : isBlank c = false) (t : Text) :
    opensNext (c :: t) = (c == '[') := by
  rw [opensNext, Text.trimStart_self (by simpa using hc)]
  rfl

theorem breakTo_blank (indent level : Int) : ∀ c ∈ breakTo indent level, isBlank c :=
  fun c hc => spacer_blank (breakTo_spacers indent level c hc)

theorem blank_plain {c : Char} (h : isBlank c) :
    isQuote c = false ∧ c ≠ '[' ∧ c ≠ ']' ∧ c ≠ ',' :=
  of_blank (P := fun c => isQuote c = false ∧ c ≠ '[' ∧ c ≠ ']' ∧ c ≠ ',') (by decide +kernel) h

theorem nestedFrom_blank {c : Char} (h : isBlank c) (indent level : Int) (t : Text) :
    nestedFrom indent level .outside (c :: t) = c :: nestedFrom indent level .outside t := by
  obtain ⟨quote, opening, closing, comma⟩ := blank_plain h
  simp [nestedFrom, Place.quotes, quote, opening, closing, comma, after_outside quote]

/-- Only a closing bracket has something put in before it. -/
theorem nestedFrom_head {c : Char} (h : c ≠ ']') (indent level : Int) (p : Place) (t : Text) :
    ∃ u, nestedFrom indent level p (c :: t) = c :: u := by
  simp only [nestedFrom, beq_iff_eq, h, if_false]
  split
  · exact ⟨_, rfl⟩
  · split
    · exact ⟨_, rfl⟩
    · split
      · exact ⟨_, rfl⟩
      · exact ⟨_, rfl⟩

theorem nestedFrom_closing (indent level : Int) (t : Text) :
    nestedFrom indent level .outside (']' :: t) =
      (if level - 1 ≥ 1 then breakTo indent (level - 1) else []) ++
        ']' :: nestedFrom indent (level - 1) .outside t := rfl

/-- The bracket that a comma looks for is there in the text exactly if it is there in the layout. -/
theorem opensNext_nestedFrom (indent level : Int) (t : Text) :
    opensNext (nestedFrom indent level .outside t) = opensNext t := by
  induction t with
  | nil => rfl
  | cons c t ih =>
      cases blank : isBlank c with
      | true =>
          have one : ∀ d ∈ [c], isBlank d := by simpa using blank
          rw [nestedFrom_blank blank, ← List.singleton_append, opensNext_blanks one, ih,
            ← List.singleton_append (l := t), opensNext_blanks one]
      | false =>
          rw [opensNext_visible blank]
          by_cases closing : c = ']'
          · subst closing
            rw [nestedFrom_closing]
            split
            · rw [opensNext_blanks (breakTo_blank _ _), opensNext_visible blank]
            · exact opensNext_visible blank _
          · obtain ⟨u, first⟩ := nestedFrom_head closing indent level .outside t
            rw [first, opensNext_visible blank]

/-- Below an inner bracket no layout starts with padding and a closing bracket: a closing bracket
    has its own line feed in front. -/
theorem nestedFrom_not_padded (inner : level - 1 ≥ 1) (width : Nat) (t : Text) :
    ¬ List.replicate width ' ' ++ [']'] <+: nestedFrom indent level .outside t := by
  induction width generalizing t with
  | zero =>
      cases t with
      | nil => exact List.prefix_nil.not.mpr (by simp)
      | cons c t =>
          by_cases closing : c = ']'
          · subst closing
            rw [nestedFrom_closing, if_pos inner]
            intro start
            cases (List.cons_prefix_cons.mp start).1
          · obtain ⟨u, first⟩ := nestedFrom_head closing indent level .outside t
            rw [first]
            intro start
            exact closing (List.cons_prefix_cons.mp start).1.symm
  | succ width ih =>
      cases t with
      | nil => exact List.prefix_nil.not.mpr (by simp)
      | cons c t =>
          by_cases closing : c = ']'
          · subst closing
            rw [nestedFrom_closing, if_pos inner]
            intro start
            cases (List.cons_prefix_cons.mp start).1
          · obtain ⟨u, first⟩ := nestedFrom_head closing indent level .outside t
            intro start
            rw [first] at start
            obtain ⟨rfl, -⟩ := List.cons_prefix_cons.mp start
            rw [← first, nestedFrom_blank rfl] at start
            exact ih t (List.cons_prefix_cons.mp start).2

theorem not_closesNext (c : Char) (t : Text) :
    closesNext indent level (c :: nestedFrom indent level .outside t) = false := by
  cases closes : closesNext indent level (c :: nestedFrom indent level .outside t) with
  | false => rfl
  | true =>
      simp only [closesNext, Bool.and_eq_true, decide_eq_true_eq] at closes
      obtain ⟨inner, start⟩ := closes
      have padded := (List.cons_prefix_cons.mp (List.isPrefixOf_iff_prefix.mp start)).2
      exact absurd padded (nestedFrom_not_padded inner _ t)

/-! ## Leaving it out -/

theorem rejoinFrom_skip (g t : Text) :
    rejoinFrom indent g.length level p (g ++ t) = rejoinFrom indent 0 level p t := by
  induction g with
  | nil => rfl
  | cons c g ih => exact ih

theorem rejoinFrom_skip_if {b : Prop} [Decidable b] (g t : Text) :
    rejoinFrom indent (if b then g.length else 0) level p ((if b then g else []) ++ t) =
      rejoinFrom indent 0 level p t := by
  split
  · exact rejoinFrom_skip g t
  · rfl

theorem rejoinFrom_closing (t : Text) :
    rejoinFrom indent 0 level .outside
      ((if level - 1 ≥ 1 then breakTo indent (level - 1) else []) ++ ']' :: t) =
      ']' :: rejoinFrom indent 0 (level - 1) .outside t := by
  split
  · rename_i inner
    have closes : closesNext indent level (breakTo indent (level - 1) ++ ']' :: t) = true := by
      rw [closesNext, decide_eq_true inner, Bool.true_and, List.isPrefixOf_iff_prefix]
      exact ⟨t, by simp⟩
    have skip : rejoinFrom indent 0 level .outside (breakTo indent (level - 1) ++ ']' :: t) =
        rejoinFrom indent ((breakTo indent (level - 1)).length - 1) level .outside
          (List.replicate (indent * (level - 1)).toNat ' ' ++ ']' :: t) := by
      exact if_pos closes
    have width : (breakTo indent (level - 1)).length - 1 =
        (List.replicate (indent * (level - 1)).toNat ' ').length := rfl
    rw [skip, width, rejoinFrom_skip]
    rfl
  · rfl

theorem rejoinFrom_comma (t : Text) :
    rejoinFrom indent 0 level .outside
      (',' :: ((if opensNext t then breakTo indent (max level 0) else []) ++
        nestedFrom indent level .outside t)) =
      ',' :: rejoinFrom indent 0 level .outside (nestedFrom indent level .outside t) := by
  have seen : opensNext ((if opensNext t then breakTo indent (max level 0) else []) ++
      nestedFrom indent level .outside t) = opensNext t := by
    split
    · rw [opensNext_blanks (breakTo_blank _ _), opensNext_nestedFrom]
    · exact opensNext_nestedFrom indent level t
  have step (u : Text) : rejoinFrom indent 0 level .outside (',' :: u) =
      ',' :: rejoinFrom indent (if opensNext u then (breakTo indent (max level 0)).length else 0)
        level .outside u := rfl
  rw [step, seen, rejoinFrom_skip_if]

theorem rejoinFrom_nestedFrom (indent level : Int) (p : Place) (t : Text) :
    rejoinFrom indent 0 level p (nestedFrom indent level p t) = t := by
  induction t generalizing level p with
  | nil => rfl
  | cons c t ih =>
      cases quoted : p.quotes c with
      | true => simp only [nestedFrom, quoted, if_true, rejoinFrom, ih]
      | false =>
          -- only outside of quotes can a character be unquoted
          cases p with
          | inside q e => cases quoted
          | outside =>
              have stays : Place.outside.after c = .outside := after_outside quoted
              by_cases closing : c = ']'
              · subst closing
                rw [nestedFrom_closing, rejoinFrom_closing, ih]
              · simp only [nestedFrom, quoted, stays, Bool.false_eq_true, if_false, beq_iff_eq,
                  closing]
                split
                · subst c
                  simp [rejoinFrom, quoted, stays, rejoinFrom_skip_if, ih]
                · rename_i opening
                  split
                  · subst c
                    rw [List.cons_append, rejoinFrom_comma, ih]
                  · rename_i comma
                    simp [rejoinFrom, quoted, stays, closing, opening, comma, not_closesNext, ih]

/-- Breaking lines by nesting puts line breaks and padding into a text and nothing else, and the
    text can be had back from its layout, so that no two texts have the same one. -/
theorem formatNested_recoverable (indent : Int) :
    (∀ t, Broken t (formatNested t indent) ∧ rejoin (formatNested t indent) indent = t) ∧
      ∀ t u, formatNested t indent = formatNested u indent → t = u := by
  have recovers (t : Text) : rejoin (formatNested t indent) indent = t :=
    rejoinFrom_nestedFrom indent 0 .outside t
  refine ⟨fun t => ⟨nestedFrom_broken indent 0 .outside t, recovers t⟩, fun t u same => ?_⟩
  calc t = rejoin (formatNested t indent) indent := (recovers t).symm
    _ = rejoin (formatNested u indent) indent := by rw [same]
    _ = u := recovers u

/-- Text with breaks of its own where the pass puts breaks in, one bracket too many that is closed
    and quotes that are not. -/
theorem formatNested_recoverable_breaks :
    let t : Text := "[[\n  1\n  ],\n[2]]], '[[,"
    let shown : Text := "[[\n  \n  1\n  \n  ],\n  \n[\n  2\n  ]]], '[[,"
    formatNested t 2 = shown ∧ formatNested t 2 = formatNested (rejoin shown 2) 2 ∧
      t = rejoin shown 2 := by
  intro t shown
  have laid : formatNested t 2 = shown := by decide
  have again : formatNested t 2 = formatNested (rejoin shown 2) 2 := by decide
  exact ⟨laid, again, (formatNested_recoverable 2).2 t (rejoin shown 2) again⟩

end Stencil.Layout

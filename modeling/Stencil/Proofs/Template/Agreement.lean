import Mathlib
import Stencil.Proofs.Reference.Printed
import Stencil.Proofs.Reference.Settled
import Stencil.Proofs.Template.Fault

/-! # References as placeholders

Two scans go over the text of a placeholder. The one for its end counts
parentheses wherever they stand; the one for the steps of its reference matches
brackets and leaves out what is quoted. Without braces and colons the text of a
reference is a placeholder exactly when its parentheses are balanced, those in
quotes counted as well. So the scans agree unless quoted text has parentheses
that do not balance there.
-/

namespace Stencil.Template

open Layout

/-! ## Balanced quotes in balanced text -/

/-- Balanced segments that are put into balanced text leave it balanced. -/
theorem closes_segments {segments : List (Text × Bool)} {d : Nat}
    (balanced : ∀ s ∈ segments, s.2 = true → Balanced s.1)
    (h : Closes d ((segments.filter (!·.2)).flatMap (·.1))) :
    Closes d (segments.flatMap (·.1)) := by
  induction segments generalizing d with
  | nil => exact h
  | cons s segments ih =>
      obtain ⟨t, quoted⟩ := s
      obtain ⟨first, others⟩ := List.forall_mem_cons.mp balanced
      cases quoted with
      | true => exact .behind (first rfl) (ih others h)
      | false =>
          obtain ⟨above, e, he, closes⟩ := closes_append.mp h
          exact closes_append.mpr ⟨above, e, he, ih others closes⟩

theorem segments_bare (segments : List (Text × Bool)) :
    ((segments.flatMap fun s => s.1.map (·, s.2)).filter (!·.2)).map (·.1) =
      (segments.filter (!·.2)).flatMap (·.1) := by
  induction segments with
  | nil => rfl
  | cons s segments ih =>
      obtain ⟨t, quoted⟩ := s
      rw [List.flatMap_cons, List.filter_append, List.map_append, ih]
      cases quoted with
      | true => simp [List.filter_map, Function.comp_def]
      | false => simp [List.filter_map, Function.comp_def]

/-- Text is balanced when it is balanced outside of quotes and so is each quoted run. -/
theorem balanced_of_quoted {t : Text} (bare : Balanced (bareFrom .outside t))
    (quoted : ∀ run ∈ quotedRuns (scan t), Balanced run) : Balanced t := by
  have whole : (runs (scan t)).flatMap (·.1) = t := by
    have text := congrArg (List.map (·.1)) (runs_flatMap (scan t))
    rw [List.map_flatMap] at text
    simp only [List.map_map, Function.comp_def, List.map_id'] at text
    rw [text]
    exact scanFrom_map_fst .outside t
  have outside : ((runs (scan t)).filter (!·.2)).flatMap (·.1) = bareFrom .outside t := by
    rw [← segments_bare, runs_flatMap]
    rfl
  rw [← outside] at bare
  rw [← whole]
  refine closes_zero.mp (closes_segments (fun s hs inside => ?_) (closes_zero.mpr bare))
  exact quoted s.1 (List.mem_map_of_mem (List.mem_filter.mpr ⟨hs, inside⟩))

/-! ## The text of a reference between braces -/

theorem read_trim (t : Text) : Reference.read (Text.trim t) = Reference.read t := by
  rw [Reference.read, (Text.trimmed_trim t).trim]
  rfl

theorem trim_ne_nil {t r} (h : Reference.read t = .ok r) : Text.trim t ≠ [] := by
  intro blank
  simp only [Reference.read, blank] at h
  cases h

theorem splits_whole {t : Text} (h : ∀ c ∈ t, c ≠ ':') : Splits t t none := by
  refine ⟨fun p u e => ?_, rfl⟩
  exact absurd rfl (h ':' (by simp [e]))

section

variable {t : Text} (plain : ∀ c ∈ t, c ≠ '\x7b' ∧ c ≠ '\x7d' ∧ c ≠ ':')
include plain

theorem read_balanced {r : Reference} (accepted : Reference.read t = .ok r)
    (balanced : Balanced t) :
    read ('\x7b' :: (t ++ ['\x7d'])) =
      .ok ⟨[([], ⟨'\x7b' :: (t ++ ['\x7d']), Text.trim t, none, 0, r⟩)], []⟩ := by
  have parts : Parts ('\x7b' :: (t ++ ['\x7d'])) t t none r :=
    ⟨rfl, fun c hc => ⟨(plain c hc).1, (plain c hc).2.1⟩, balanced,
      splits_whole fun c hc => (plain c hc).2.2, trim_ne_nil accepted,
      (read_trim t).trans accepted⟩
  have placed : Placed 0 [([], ⟨'\x7b' :: (t ++ ['\x7d']), Text.trim t, none, 0, r⟩)] :=
    .cons parts rfl rfl .nil
  have whole := readFrom_placed placed []
  simpa [sources, join, escape, read] using whole

theorem scanBody_unbalanced (unbalanced : ¬ Balanced t) :
    ∃ fault seen, scanBody 0 (t ++ ['\x7d']) = .error (fault, seen) ∧
      (fault = .unbalancedOpen ∨ fault = .unbalancedClose) := by
  have noBrace : '\x7d' ∉ t := fun h => (plain _ h).2.1 rfl
  cases scanned : scanBody 0 (t ++ ['\x7d']) with
  | ok r =>
      obtain ⟨body, rest⟩ := r
      obtain ⟨text, braceless, closes⟩ := scanBody_iff.mp scanned
      -- the brace that ends the body is the one behind the text
      have same : body = t := by
        rcases List.append_eq_append_iff.mp text with ⟨more, rfl, e⟩ | ⟨more, rfl, e⟩
        · cases more with
          | nil => exact List.append_nil t
          | cons c more => simp at e
        · cases more with
          | nil => exact (List.append_nil body).symm
          | cons c more =>
              obtain ⟨rfl, -⟩ := List.cons.inj e
              exact absurd (by simp) noBrace
      subst same
      exact absurd (closes_zero.mp closes) unbalanced
  | error e =>
      obtain ⟨fault, seen⟩ := e
      refine ⟨fault, seen, rfl, ?_⟩
      have found := scanBody_error scanned
      generalize whole : t ++ ['\x7d'] = text at found
      cases found with
      | unterminated within =>
          exact absurd rfl (within.braceless '\x7d' (by simp [← whole])).2
      | @nested u rest =>
          have brace : '\x7b' ∈ t ++ ['\x7d'] := by simp [whole]
          have inside : '\x7b' ∈ t := by simpa using brace
          exact absurd rfl (plain _ inside).1
      | closing => exact .inr rfl
      | opening => exact .inl rfl

theorem read_unbalanced (unbalanced : ¬ Balanced t) :
    ∃ fault fragment, read ('\x7b' :: (t ++ ['\x7d'])) = .error ⟨fault, fragment, 0⟩ ∧
      (fault = .unbalancedOpen ∨ fault = .unbalancedClose) := by
  obtain ⟨fault, seen, scanned, kind⟩ := scanBody_unbalanced plain unbalanced
  refine ⟨fault, '\x7b' :: seen, readFrom_unscanned ?_ scanned, kind⟩
  cases t with
  | nil => simp
  | cons c t => simpa using (plain c (by simp)).1

end

/-- An item of a variable, its key a text. -/
theorem read_item (key : Text) : Reference.read ('x' :: '[' :: (quoted key ++ [']'])) =
    .ok ⟨'x' :: '[' :: (quoted key ++ [']']), .name "x", [.item (.scalar (.text key))]⟩ := by
  have steps : Step.AllPrinted [.item (.scalar (.text key))] ('[' :: (quoted key ++ [']'])) := by
    have item : Step.Printed (.item (.scalar (.text key))) ('[' :: (quoted key ++ [']'])) :=
      .item (.text key)
    simpa using Step.AllPrinted.cons (g := []) (by simp) item .nil
  have head : Head.Printed (.name "x") "x" := .name ⟨'x', [], rfl, rfl, by simp⟩
  have ends : Text.Trimmed ('x' :: ('[' :: quoted key ++ [']'])) := .between rfl rfl
  have start : Reference.readHead? ('x' :: '[' :: (quoted key ++ [']'])) =
      some (.name "x", '[' :: (quoted key ++ [']'])) := readHead?_printed head steps.stops
  rw [List.cons_append] at ends
  simp only [Reference.read, ends.trim, start, readSteps_printed steps]
  rfl

/-- A text that is read as a reference and has neither braces nor a colon makes a placeholder when
    it is put between braces, with that reference and no spec, if its parentheses are balanced, and
    otherwise it does not. They are balanced when those in each quoted run are, and in particular
    when none are quoted. -/
theorem read_enclosed_reference {t : Text} {r : Reference}
    (accepted : Reference.read t = .ok r) (plain : ∀ c ∈ t, c ≠ '\x7b' ∧ c ≠ '\x7d' ∧ c ≠ ':') :
    (Balanced t → read ('\x7b' :: (t ++ ['\x7d'])) =
      .ok ⟨[([], ⟨'\x7b' :: (t ++ ['\x7d']), Text.trim t, none, 0, r⟩)], []⟩) ∧
    (¬ Balanced t → ∃ fault fragment,
      read ('\x7b' :: (t ++ ['\x7d'])) = .error ⟨fault, fragment, 0⟩ ∧
        (fault = .unbalancedOpen ∨ fault = .unbalancedClose)) ∧
    ((∀ run ∈ quotedRuns (scan t), Balanced run) → Balanced t) :=
  ⟨read_balanced plain accepted, read_unbalanced plain,
    balanced_of_quoted (Reference.read_settled accepted).balanced⟩

/-- A key with quoted parentheses that balance. -/
theorem read_enclosed_reference_quoted :
    let t : Text := "x['()']"
    let r : Reference := ⟨t, .name "x", [.item (.scalar (.text "()"))]⟩
    Reference.read t = .ok r ∧ (∀ c ∈ t, c ≠ '\x7b' ∧ c ≠ '\x7d' ∧ c ≠ ':') ∧
      read ('\x7b' :: (t ++ ['\x7d'])) =
        .ok ⟨[([], ⟨'\x7b' :: (t ++ ['\x7d']), t, none, 0, r⟩)], []⟩ := by
  intro t r
  have accepted : Reference.read t = .ok r := read_item "()"
  have plain : ∀ c ∈ t, c ≠ '\x7b' ∧ c ≠ '\x7d' ∧ c ≠ ':' :=
    List.all_iff_forall_prop.mp (by decide)
  have quoted : Balanced "'()'" := by
    have scanned : scanBody 0 "'()'\x7d" = .ok ("'()'", []) := rfl
    exact closes_zero.mp (scanBody_iff.mp scanned).closes
  have runs : quotedRuns (scan t) = ["'()'"] := by decide
  obtain ⟨made, -, balanced⟩ := read_enclosed_reference accepted plain
  refine ⟨accepted, plain, made (balanced ?_)⟩
  rw [runs]
  simpa using quoted

/-- One quoted parenthesis keeps the text of a reference from being a placeholder. -/
theorem quoted_parenthesis_not_enclosed :
    let t : Text := "x['(']"
    Reference.read t = .ok ⟨t, .name "x", [.item (.scalar (.text "("))]⟩ ∧
      (∀ c ∈ t, c ≠ '\x7b' ∧ c ≠ '\x7d' ∧ c ≠ ':') ∧
      read ('\x7b' :: (t ++ ['\x7d'])) =
        .error ⟨.unbalancedOpen, '\x7b' :: (t ++ ['\x7d']), 0⟩ := by
  intro t
  refine ⟨read_item "(", List.all_iff_forall_prop.mp (by decide), ?_⟩
  have scanned : scanBody 0 (t ++ ['\x7d']) = .error (.unbalancedOpen, t ++ ['\x7d']) := rfl
  exact readFrom_unscanned (by intro c hc; cases hc; decide) scanned

end Stencil.Template

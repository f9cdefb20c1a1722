import Stencil.Proofs.Layout.Respaced
import Stencil.Proofs.Literal.Inert

/-! # Replacements piece by piece

The fixed replacements go over whole runs of unquoted text, one after the other.
Text without square brackets outside of quotes is passed over as it is, and a
piece that ends in an opening bracket is replaced by itself when no opening
bracket follows it: no text that is looked for goes on behind an opening bracket
with anything but another one.
-/

namespace Stencil.Layout

open Text

/-! ## One replacement -/

/-- Whether behind every opening bracket of a text there stands another one, or nothing. -/
def opensOn : Text → Bool
  | c :: d :: t => (c != '[' || d == '[') && opensOn (d :: t)
  | _ => true

/-- A replacement of brackets that can be made piece by piece. -/
def isJoint (r : Text × Text) : Bool :=
  isRespacing r && (r.1.head?.any fun c => c == '[' || c == ']') && opensOn r.1 &&
    r.1.getLast? == r.2.getLast?

variable {r : Text × Text} {rs : Replacements} {t u : Text} {c : Char}

theorem isJoint_parts (h : isJoint r) : isRespacing r ∧
    (∀ c ∈ r.1.head?, c = '[' ∨ c = ']') ∧ opensOn r.1 ∧ r.1.getLast? = r.2.getLast? := by
  simp only [isJoint, Bool.and_eq_true, beq_iff_eq] at h
  obtain ⟨⟨⟨respacing, bracket⟩, opens⟩, last⟩ := h
  refine ⟨respacing, ?_, opens, last⟩
  intro c hc
  rw [hc] at bracket
  simpa using bracket

theorem opensOn_behind {v w : Text} (h : opensOn (v ++ '[' :: w)) : ∀ c ∈ w.head?, c = '[' := by
  induction v with
  | nil =>
      cases w with
      | nil => simp
      | cons d w =>
          simp only [List.nil_append, opensOn, Bool.and_eq_true] at h
          simpa using h.1
  | cons c v ih =>
      apply ih
      cases v with
      | nil =>
          simp only [List.cons_append, List.nil_append, opensOn, Bool.and_eq_true] at h
          exact h.2
      | cons d v =>
          simp only [List.cons_append, opensOn, Bool.and_eq_true] at h
          exact h.2

theorem replaceFrom_last (hr : isJoint r) (t : Text) :
    (replaceFrom r.1 r.2 0 t).getLast? = t.getLast? := by
  obtain ⟨respacing, -, -, last⟩ := isJoint_parts hr
  obtain ⟨-, new, -⟩ := isRespacing_parts respacing
  have nonempty := isRespacing_ne_nil respacing
  induction t using replace_induct nonempty with
  | nil => rfl
  | found t ih =>
      rw [replaceFrom_match nonempty, List.getLast?_append, List.getLast?_append, ih, last]
  | other c t absent ih =>
      rw [replaceFrom_other absent, List.getLast?_cons, List.getLast?_cons, ih]

/-- An occurrence does not begin in a piece that ends in an opening bracket and end behind it. -/
theorem not_across (opens : opensOn r.1) (nonempty : u ≠ []) (last : ∀ c ∈ u.getLast?, c = '[')
    (head : ∀ c ∈ t.head?, c ≠ '[') (h : r.1 <+: u ++ t) : r.1 <+: u := by
  obtain inside | ⟨w, across⟩ := List.prefix_or_prefix_of_prefix h (List.prefix_append u t)
  · exact inside
  · cases w with
    | nil =>
        rw [List.append_nil] at across
        exact across ▸ List.prefix_rfl
    | cons d w =>
        rw [← across] at h opens
        obtain ⟨s, rfl⟩ := (List.prefix_append_right_inj u).mp h
        obtain ⟨v, c, rfl⟩ := (List.eq_nil_or_concat u).resolve_left nonempty
        obtain rfl := last c (by simp)
        rw [List.concat_eq_append, List.append_assoc] at opens
        exact absurd (opensOn_behind opens d rfl) (head d rfl)

/-- A piece that ends in an opening bracket is replaced by itself. -/
theorem replaceFrom_cut (hr : isJoint r) (last : ∀ c ∈ u.getLast?, c = '[')
    (head : ∀ c ∈ t.head?, c ≠ '[') :
    replaceFrom r.1 r.2 0 (u ++ t) = replaceFrom r.1 r.2 0 u ++ replaceFrom r.1 r.2 0 t := by
  obtain ⟨respacing, -, opens, -⟩ := isJoint_parts hr
  have nonempty := isRespacing_ne_nil respacing
  induction u using replace_induct nonempty with
  | nil => rfl
  | found u ih =>
      have rest : ∀ c ∈ u.getLast?, c = '[' := by
        intro c hc
        apply last c
        rw [List.getLast?_append, hc]
        rfl
      rw [List.append_assoc, replaceFrom_match nonempty, replaceFrom_match nonempty,
        List.append_assoc, ih rest]
  | other c u absent ih =>
      have rest : ∀ c ∈ u.getLast?, c = '[' := by
        intro d hd
        apply last d
        rw [List.getLast?_cons, hd]
        rfl
      have beyond : ¬ r.1 <+: c :: (u ++ t) := fun found =>
        absent (not_across opens (List.cons_ne_nil c u) last head found)
      rw [List.cons_append, replaceFrom_other absent, replaceFrom_other beyond, ih rest,
        List.cons_append]

/-- A character that is no square bracket is passed over. -/
theorem replaceFrom_pass (hr : isJoint r) (other : c ≠ '[' ∧ c ≠ ']') (t : Text) :
    replaceFrom r.1 r.2 0 (c :: t) = c :: replaceFrom r.1 r.2 0 t := by
  obtain ⟨respacing, bracket, -, -⟩ := isJoint_parts hr
  apply replaceFrom_other
  rintro ⟨u, eq⟩
  obtain ⟨d, old, same⟩ := List.exists_cons_of_ne_nil (isRespacing_ne_nil respacing)
  rw [same] at eq
  obtain ⟨rfl, -⟩ := List.cons.inj eq
  have kind := bracket d (by rw [same]; rfl)
  exact kind.elim other.1 other.2

/-! ## All replacements -/

section

variable (hrs : ∀ r ∈ rs, isJoint r)
include hrs

theorem joint_respacing : ∀ r ∈ rs, isRespacing r := fun r hr => (isJoint_parts (hrs r hr)).1

theorem replaceEach_cut (last : ∀ c ∈ u.getLast?, c = '[') (head : ∀ c ∈ t.head?, c ≠ '[') :
    replaceEach rs (u ++ t) = replaceEach rs u ++ replaceEach rs t := by
  induction rs generalizing u t with
  | nil => rfl
  | cons r rs ih =>
      obtain ⟨hr, others⟩ := List.forall_mem_cons.mp hrs
      obtain ⟨respacing, -⟩ := isJoint_parts hr
      rw [replaceEach_cons respacing, replaceEach_cons respacing, replaceEach_cons respacing,
        replaceFrom_cut hr last head]
      apply ih others
      · rwa [replaceFrom_last hr]
      · rwa [replaceFrom_head respacing]

theorem replaceEach_pass (other : c ≠ '[' ∧ c ≠ ']') (t : Text) :
    replaceEach rs (c :: t) = c :: replaceEach rs t := by
  induction rs generalizing t with
  | nil => rfl
  | cons r rs ih =>
      obtain ⟨hr, others⟩ := List.forall_mem_cons.mp hrs
      obtain ⟨respacing, -⟩ := isJoint_parts hr
      rw [replaceEach_cons respacing, replaceEach_cons respacing, replaceFrom_pass hr other,
        ih others]

end

/-! ## Unquoted runs -/

/-- The replacements applied to the unquoted runs of scanned characters. -/
def replaceRuns (rs : Replacements) (cs : List (Char × Bool)) : Text :=
  (runs cs).flatMap fun run => if run.2 then run.1 else replaceEach rs run.1

/-- Quoted characters are kept, whatever run they belong to. -/
theorem replaceRuns_quoted (rs : Replacements) (w : Text) (cs : List (Char × Bool)) :
    replaceRuns rs (w.map (·, true) ++ cs) = w ++ replaceRuns rs cs := by
  induction w with
  | nil => rfl
  | cons c w ih =>
      rw [List.map_cons, List.cons_append, List.cons_append, ← ih]
      simp only [replaceRuns, runs]
      split
      · rename_i none
        simp [none]
      · rename_i t r more some
        cases r <;> simp [some]

theorem runs_unquoted {u : Text} {cs : List (Char × Bool)} (nonempty : u ≠ [])
    (quoted : ∀ x ∈ cs.head?, x.2 = true) :
    runs (u.map (·, false) ++ cs) = (u, false) :: runs cs := by
  induction u with
  | nil => exact absurd rfl nonempty
  | cons c u ih =>
      cases u with
      | nil =>
          cases cs with
          | nil => rfl
          | cons x cs =>
              obtain ⟨d, q⟩ := x
              obtain rfl : q = true := quoted _ rfl
              obtain ⟨s, more, first⟩ := runs_cons d true cs
              rw [List.map_singleton, List.singleton_append, runs, first]
              rfl
      | cons d u =>
          rw [List.map_cons, List.cons_append, runs, ih (List.cons_ne_nil d u)]
          rfl

theorem scanFrom_unquoted {u : Text} (h : ∀ c ∈ u, isQuote c = false) :
    scanFrom .outside u = u.map (·, false) := by
  induction u with
  | nil => rfl
  | cons c u ih =>
      obtain ⟨first, rest⟩ := List.forall_mem_cons.mp h
      rw [scanFrom, after_outside first, ih rest, List.map_cons]
      simp only [Place.quotes, first]

theorem exists_lead (t : Text) : ∃ u v, t = u ++ v ∧ (∀ c ∈ u, isQuote c = false) ∧
    ∀ c ∈ v.head?, isQuote c := by
  refine ⟨t.takeWhile (!isQuote ·), t.dropWhile (!isQuote ·), ?_, ?_, ?_⟩
  · rw [List.takeWhile_append_dropWhile]
  · intro c hc
    simpa using List.mem_takeWhile_imp hc
  · intro c hc
    have stop := List.head?_dropWhile_not (!isQuote ·) t
    rw [hc] at stop
    simpa using stop

section

variable (hrs : ∀ r ∈ rs, isJoint r)
include hrs

/-- The first run is replaced on its own. -/
theorem replaceUnquoted_run {u : Text} (unquoted : ∀ c ∈ u, isQuote c = false)
    (quoted : ∀ c ∈ t.head?, isQuote c) :
    replaceUnquoted rs (u ++ t) = replaceEach rs u ++ replaceUnquoted rs t := by
  have scanned : scan (u ++ t) = u.map (·, false) ++ scan t := by
    rw [scan, scanFrom_append, foldl_after_unquoted unquoted, scanFrom_unquoted unquoted, scan]
  have first : ∀ x ∈ (scan t).head?, x.2 = true := by
    cases t with
    | nil => simp [scan, scanFrom]
    | cons c t =>
        have mark := quoted c rfl
        simpa [scan, scanFrom, Place.quotes] using mark
  cases u with
  | nil => rw [replaceEach_nil (joint_respacing hrs)]; rfl
  | cons c u =>
      rw [replaceUnquoted, scanned, runs_unquoted (List.cons_ne_nil c u) first]
      rfl

theorem replaceUnquoted_cut {u : Text} (unquoted : ∀ c ∈ u, isQuote c = false)
    (last : ∀ c ∈ u.getLast?, c = '[') (head : ∀ c ∈ t.head?, c ≠ '[') :
    replaceUnquoted rs (u ++ t) = replaceEach rs u ++ replaceUnquoted rs t := by
  obtain ⟨v, w, rfl, plain, quoted⟩ := exists_lead t
  have start : ∀ c ∈ v.head?, c ≠ '[' := by
    cases v with
    | nil => simp
    | cons d v => exact head
  have both : ∀ c ∈ u ++ v, isQuote c = false := List.forall_mem_append.mpr ⟨unquoted, plain⟩
  rw [← List.append_assoc, replaceUnquoted_run hrs both quoted, replaceEach_cut hrs last start,
    List.append_assoc, replaceUnquoted_run hrs plain quoted]

theorem replaceUnquoted_plain (quote : isQuote c = false) (other : c ≠ '[' ∧ c ≠ ']') (t : Text) :
    replaceUnquoted rs (c :: t) = c :: replaceUnquoted rs t := by
  obtain ⟨v, w, rfl, plain, quoted⟩ := exists_lead t
  have both : ∀ d ∈ c :: v, isQuote d = false := List.forall_mem_cons.mpr ⟨quote, plain⟩
  rw [← List.cons_append, replaceUnquoted_run hrs both quoted, replaceEach_pass hrs other,
    List.cons_append, replaceUnquoted_run hrs plain quoted]

/-- Inert text is passed over. -/
theorem replaceUnquoted_inert (h : Inert u) (t : Text) :
    replaceUnquoted rs (u ++ t) = u ++ replaceUnquoted rs t := by
  induction h with
  | nil => rfl
  | plain quote seam _ ih =>
      obtain ⟨opening, closing, -⟩ := not_seam seam
      rw [List.cons_append, replaceUnquoted_plain hrs quote ⟨opening, closing⟩, ih,
        List.cons_append]
  | @quoted q body u mark inner _ ih =>
      have run : replaceUnquoted rs (q :: (body ++ q :: (u ++ t))) =
          q :: (body ++ [q]) ++ replaceUnquoted rs (u ++ t) := by
        change replaceRuns rs (scanFrom .outside (q :: (body ++ q :: (u ++ t)))) = _
        rw [scanFrom_quoted mark inner, replaceRuns_quoted]
        rfl
      rw [List.cons_append, List.append_assoc, List.cons_append, run, ih]
      simp

/-- Text without quotes is one run. -/
theorem replaceUnquoted_whole {u : Text} (unquoted : ∀ c ∈ u, isQuote c = false) :
    replaceUnquoted rs u = replaceEach rs u := by
  have run := replaceUnquoted_run hrs (t := []) unquoted (by simp)
  have nothing : replaceUnquoted rs [] = [] := rfl
  rwa [List.append_nil, nothing, List.append_nil] at run

end

end Stencil.Layout

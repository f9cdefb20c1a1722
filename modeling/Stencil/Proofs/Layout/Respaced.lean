import Mathlib.Data.List.Basic
import Stencil.Layout.Array

/-! # Texts that differ in spacing only

Spaces and line feeds beside a bracket or comma say nothing, as long as they are
not quoted. `tightenFrom` drops them, and two texts are respaced forms of each
other when what is left is the same. Spacing between two words is not dropped:
without it the words would be another one. The fixed replacements and the
general pass both give respaced forms, whatever text they are given.
-/

namespace Stencil.Layout

/-- A space or a line feed, which is all that layouts put in. -/
def isSpacer (c : Char) : Bool := c == ' ' || c == '\n'

/-- A character beside which spacing says nothing. -/
def isSeam (c : Char) : Bool := c == '[' || c == ']' || c == ','

/-- Whether the first character behind the spacing is a seam. -/
def meetsSeam : Text → Bool
  | [] => false
  | c :: t => if isSpacer c then meetsSeam t else isSeam c

/-- The text without the spacing beside unquoted seams; `seam` right behind one. -/
def tightenFrom (p : Place) (seam : Bool) : Text → Text
  | [] => []
  | c :: t =>
      if p = .outside ∧ isSpacer c then
        if seam || meetsSeam t then tightenFrom p seam t else c :: tightenFrom p seam t
      else c :: tightenFrom (p.after c) (p = .outside && isSeam c) t

/-- Two texts that differ in the spacing beside unquoted seams only, read from a place on. -/
def Respaced (p : Place) (t u : Text) : Prop := ∀ seam, tightenFrom p seam t = tightenFrom p seam u

theorem seam_not_spacer {c} (h : isSeam c) : isSpacer c = false := by
  simp only [isSeam, Bool.or_eq_true, beq_iff_eq] at h
  rcases h with (rfl | rfl) | rfl <;> rfl

theorem seam_not_quote {c} (h : isSeam c) : isQuote c = false := by
  simp only [isSeam, Bool.or_eq_true, beq_iff_eq] at h
  rcases h with (rfl | rfl) | rfl <;> rfl

theorem isSpacer_cases {c} (h : isSpacer c) : c = ' ' ∨ c = '\n' := by
  simpa only [isSpacer, Bool.or_eq_true, beq_iff_eq] using h

theorem spacer_not_quote {c} (h : isSpacer c) : isQuote c = false := by
  rcases isSpacer_cases h with rfl | rfl <;> rfl

theorem after_outside {c} (h : isQuote c = false) : Place.outside.after c = .outside := by
  simp only [Place.after, h, Bool.false_eq_true, if_false]

theorem meetsSeam_append {g : Text} (hg : ∀ c ∈ g, isSpacer c) (t : Text) :
    meetsSeam (g ++ t) = meetsSeam t := by
  induction g with
  | nil => rfl
  | cons c g ih =>
      simp only [List.cons_append, meetsSeam, hg c (by simp), if_true]
      exact ih fun d hd => hg d (by simp [hd])

/-- Behind a seam all spacing is dropped, so what is met first can be read off. -/
theorem meetsSeam_eq (t : Text) :
    meetsSeam t = ((tightenFrom .outside true t).head?.map isSeam).getD false := by
  induction t with
  | nil => rfl
  | cons c t ih =>
      cases hc : isSpacer c with
      | true => simp [meetsSeam, tightenFrom, hc, ih]
      | false => simp [meetsSeam, tightenFrom, hc]

theorem tightenFrom_spacers {g : Text} (hg : ∀ c ∈ g, isSpacer c) {seam : Bool} {t : Text}
    (h : seam ∨ meetsSeam t) :
    tightenFrom .outside seam (g ++ t) = tightenFrom .outside seam t := by
  induction g with
  | nil => rfl
  | cons c g ih =>
      have hg' : ∀ d ∈ g, isSpacer d := fun d hd => hg d (by simp [hd])
      have drop : (seam || meetsSeam (g ++ t)) = true := by
        rw [meetsSeam_append hg', Bool.or_eq_true]
        exact h
      simp only [List.cons_append, tightenFrom, hg c (by simp), and_self, if_true, drop]
      exact ih hg'

theorem tightenFrom_seam {c} (hc : isSeam c) (seam : Bool) (t : Text) :
    tightenFrom .outside seam (c :: t) = c :: tightenFrom .outside true t := by
  simp [tightenFrom, seam_not_spacer hc, after_outside (seam_not_quote hc), hc]

namespace Respaced

theorem refl (p : Place) (t : Text) : Respaced p t t := fun _ => rfl

theorem trans {p t u v} (h : Respaced p t u) (k : Respaced p u v) : Respaced p t v :=
  fun seam => (h seam).trans (k seam)

theorem meetsSeam_eq {t u} (h : Respaced .outside t u) : meetsSeam t = meetsSeam u := by
  rw [Layout.meetsSeam_eq, Layout.meetsSeam_eq, h true]

theorem cons {p t u} (c : Char) (h : Respaced (p.after c) t u) : Respaced p (c :: t) (c :: u) := by
  intro seam
  simp only [tightenFrom]
  split
  · rename_i hc
    obtain ⟨rfl, hc⟩ := hc
    have same : Respaced .outside t u := by
      rwa [after_outside (spacer_not_quote hc)] at h
    rw [same.meetsSeam_eq, same seam]
  · rw [h]

theorem append {p t u} (v : Text) (h : Respaced (v.foldl Place.after p) t u) :
    Respaced p (v ++ t) (v ++ u) := by
  induction v generalizing p with
  | nil => exact h
  | cons c v ih => exact cons c (ih h)

/-- Spacing put in behind a seam. -/
theorem break_behind {c} (hc : isSeam c) {g t u : Text} (hg : ∀ d ∈ g, isSpacer d)
    (h : Respaced .outside t u) : Respaced .outside (c :: (g ++ t)) (c :: u) := by
  intro seam
  rw [tightenFrom_seam hc, tightenFrom_seam hc, tightenFrom_spacers hg (.inl rfl), h true]

/-- Spacing put in before a seam. -/
theorem break_before {c} (hc : isSeam c) {g t u : Text} (hg : ∀ d ∈ g, isSpacer d)
    (h : Respaced .outside t u) : Respaced .outside (g ++ c :: t) (c :: u) := by
  intro seam
  have met : meetsSeam (c :: t) = true := by simp [meetsSeam, seam_not_spacer hc, hc]
  rw [tightenFrom_spacers hg (.inr met), tightenFrom_seam hc, tightenFrom_seam hc, h true]

end Respaced

/-! ## The general pass -/

theorem breakTo_spacers (indent level : Int) : ∀ c ∈ breakTo indent level, isSpacer c := by
  intro c hc
  simp only [breakTo, List.mem_cons, List.mem_replicate] at hc
  rcases hc with rfl | ⟨_, rfl⟩ <;> rfl

theorem ite_spacers {b : Prop} [Decidable b] {g : Text} (hg : ∀ c ∈ g, isSpacer c) :
    ∀ c ∈ (if b then g else []), isSpacer c := by
  split
  · exact hg
  · simp

theorem nestedFrom_respaced (indent level : Int) (p : Place) (t : Text) :
    Respaced p (nestedFrom indent level p t) t := by
  induction t generalizing level p with
  | nil => exact .refl p []
  | cons c t ih =>
      cases hq : p.quotes c with
      | true =>
          simp only [nestedFrom, hq, if_true]
          exact .cons c (ih level _)
      | false =>
          -- only outside of quotes can a character be unquoted
          cases p with
          | inside q e => simp [Place.quotes] at hq
          | outside =>
              have stays : Place.outside.after c = .outside := after_outside hq
              simp only [nestedFrom, hq, stays, Bool.false_eq_true, if_false, beq_iff_eq]
              split
              · subst c
                exact .break_behind rfl (ite_spacers (breakTo_spacers _ _)) (ih _ _)
              · split
                · subst c
                  exact .break_before rfl (ite_spacers (breakTo_spacers _ _)) (ih _ _)
                · split
                  · subst c
                    exact .break_behind rfl (ite_spacers (breakTo_spacers _ _)) (ih _ _)
                  · refine .cons c ?_
                    rw [stays]
                    exact ih _ _

theorem formatNested_respaced (t : Text) (indent : Int) :
    Respaced .outside (formatNested t indent) t := nestedFrom_respaced indent 0 .outside t

/-! ## The fixed replacements -/

theorem replaceFrom_skip (old new : Text) (n : Nat) (t : Text) :
    Text.replaceFrom old new n t = Text.replaceFrom old new 0 (t.drop n) := by
  induction t generalizing n with
  | nil => cases n <;> simp [Text.replaceFrom]
  | cons c t ih =>
      cases n with
      | zero => rfl
      | succ n => simp only [Text.replaceFrom, List.drop_succ_cons, ih]

theorem replaceFrom_match {old : Text} (h : old ≠ []) (new t : Text) :
    Text.replaceFrom old new 0 (old ++ t) = new ++ Text.replaceFrom old new 0 t := by
  obtain ⟨c, old, rfl⟩ := List.exists_cons_of_ne_nil h
  have found : (c :: old).isPrefixOf (c :: (old ++ t)) = true :=
    List.isPrefixOf_iff_prefix.mpr ⟨t, rfl⟩
  rw [List.cons_append, Text.replaceFrom, if_pos found, replaceFrom_skip]
  simp

/-- Occurrences are taken off from the left; what starts with none is left a character at a time. -/
theorem replace_induct {old : Text} {P : Text → Prop} (nonempty : old ≠ []) (nil : P [])
    (found : ∀ t, P t → P (old ++ t))
    (other : ∀ c t, ¬ old <+: c :: t → P t → P (c :: t)) (t : Text) : P t := by
  induction n : t.length using Nat.strongRecOn generalizing t with
  | ind n ih =>
      subst n
      cases t with
      | nil => exact nil
      | cons c t =>
          by_cases starts : old <+: c :: t
          · obtain ⟨u, eq⟩ := starts
            have := List.length_pos_of_ne_nil nonempty
            rw [← eq] at ih ⊢
            exact found u (ih u.length (by simp; omega) u rfl)
          · exact other c t starts (ih t.length (by simp) t rfl)

theorem replaceFrom_other {old new t : Text} {c : Char} (h : ¬ old <+: c :: t) :
    Text.replaceFrom old new 0 (c :: t) = c :: Text.replaceFrom old new 0 t := by
  have absent : ¬ old.isPrefixOf (c :: t) := fun found => h (List.isPrefixOf_iff_prefix.mp found)
  rw [Text.replaceFrom, if_neg absent]

theorem mem_replaceFrom {old new : Text} {n : Nat} {t : Text} {c : Char}
    (h : c ∈ Text.replaceFrom old new n t) : c ∈ new ∨ c ∈ t := by
  induction t generalizing n with
  | nil => cases n <;> simp [Text.replaceFrom] at h
  | cons d t ih =>
      cases n with
      | succ n => exact (ih h).imp_right (List.mem_cons_of_mem d)
      | zero =>
          simp only [Text.replaceFrom] at h
          split at h
          · rcases List.mem_append.mp h with h | h
            · exact .inl h
            · exact (ih h).imp_right (List.mem_cons_of_mem d)
          · rcases List.mem_cons.mp h with rfl | h
            · exact .inr (List.mem_cons_self ..)
            · exact (ih h).imp_right (List.mem_cons_of_mem d)

/-- A text of seams and spacing that ends with a seam. -/
def isSeamRun (t : Text) : Bool :=
  t.all (fun c => isSpacer c || isSeam c) && (t.getLast?.map isSeam).getD false

theorem tightenFrom_seamRun {r : Text} (hr : isSeamRun r) (seam : Bool) (t : Text) :
    tightenFrom .outside seam (r ++ t) = r.filter isSeam ++ tightenFrom .outside true t ∧
      meetsSeam (r ++ t) := by
  induction r generalizing seam with
  | nil => simp [isSeamRun] at hr
  | cons c r ih =>
      simp only [isSeamRun, List.all_cons, Bool.and_eq_true, Bool.or_eq_true] at hr
      obtain ⟨⟨hc, hall⟩, hlast⟩ := hr
      cases r with
      | nil =>
          have hc : isSeam c := by simpa using hlast
          exact ⟨by simp [tightenFrom_seam hc, hc], by simp [meetsSeam, seam_not_spacer hc, hc]⟩
      | cons d r =>
          have rest : isSeamRun (d :: r) := by
            simp only [isSeamRun, hall, Bool.true_and]
            simpa using hlast
          rcases hc with hc | hc
          · have not : isSeam c = false := by
              by_contra h
              simp [seam_not_spacer (Bool.not_eq_false _ ▸ h)] at hc
            obtain ⟨same, met⟩ := ih rest seam
            have spacing : ∀ e ∈ [c], isSpacer e := by simpa using hc
            rw [List.filter_cons_of_neg (by simp [not]), List.cons_append,
              ← List.singleton_append, tightenFrom_spacers spacing (.inr met),
              meetsSeam_append spacing]
            exact ⟨same, met⟩
          · rw [List.cons_append, tightenFrom_seam hc, List.filter_cons_of_pos hc]
            exact ⟨by rw [(ih rest true).1]; rfl, by simp [meetsSeam, seam_not_spacer hc, hc]⟩

/-- A replacement that changes the spacing between seams and nothing else. -/
def isRespacing (r : Text × Text) : Bool :=
  isSeamRun r.1 && isSeamRun r.2 && r.1.filter isSeam == r.2.filter isSeam &&
    r.1.head? == r.2.head?

theorem isRespacing_parts {r : Text × Text} (h : isRespacing r) : isSeamRun r.1 ∧ isSeamRun r.2 ∧
    r.1.filter isSeam = r.2.filter isSeam ∧ r.1.head? = r.2.head? := by
  simp only [isRespacing, Bool.and_eq_true, beq_iff_eq] at h
  obtain ⟨⟨⟨old, new⟩, seams⟩, head⟩ := h
  exact ⟨old, new, seams, head⟩

theorem Respaced.replace {r : Text × Text} (hr : isRespacing r) {t u : Text}
    (h : Respaced .outside t u) : Respaced .outside (r.2 ++ t) (r.1 ++ u) := by
  obtain ⟨old, new, seams, -⟩ := isRespacing_parts hr
  intro seam
  rw [(tightenFrom_seamRun new seam t).1, (tightenFrom_seamRun old seam u).1, seams, h true]

theorem isSeamRun_ne_nil {r : Text} (h : isSeamRun r) : r ≠ [] := by
  rintro rfl
  simp [isSeamRun] at h

theorem isSeamRun_unquoted {r : Text} (h : isSeamRun r) : ∀ c ∈ r, isQuote c = false := by
  intro c hc
  simp only [isSeamRun, Bool.and_eq_true, List.all_eq_true, Bool.or_eq_true] at h
  exact (h.1 c hc).elim spacer_not_quote seam_not_quote

theorem foldl_after_unquoted {t : Text} (h : ∀ c ∈ t, isQuote c = false) :
    t.foldl Place.after .outside = .outside := by
  induction t with
  | nil => rfl
  | cons c t ih =>
      rw [List.foldl_cons, after_outside (h c (by simp))]
      exact ih fun d hd => h d (by simp [hd])

theorem isRespacing_ne_nil {r : Text × Text} (h : isRespacing r) : r.1 ≠ [] :=
  isSeamRun_ne_nil (isRespacing_parts h).1

theorem replaceFrom_head {r : Text × Text} (hr : isRespacing r) (s : Text) :
    (Text.replaceFrom r.1 r.2 0 s).head? = s.head? := by
  cases s with
  | nil => rfl
  | cons c s =>
      simp only [Text.replaceFrom]
      split
      · rename_i found
        obtain ⟨rest, eq⟩ := List.isPrefixOf_iff_prefix.mp found
        obtain ⟨old, new, -, head⟩ := isRespacing_parts hr
        rw [← eq, List.head?_append_of_ne_nil _ (isSeamRun_ne_nil new),
          List.head?_append_of_ne_nil _ (isSeamRun_ne_nil old), head]
      · rfl

theorem replaceFrom_respaced {r : Text × Text} (hr : isRespacing r) {s t u : Text}
    (hs : ∀ c ∈ s, isQuote c = false) (h : Respaced .outside t u) :
    Respaced .outside (Text.replaceFrom r.1 r.2 0 s ++ t) (s ++ u) := by
  have old := isRespacing_ne_nil hr
  induction s using replace_induct old with
  | nil => exact h
  | found s ih =>
      rw [replaceFrom_match old, List.append_assoc, List.append_assoc]
      exact .replace hr (ih fun c hc => hs c (List.mem_append_right _ hc))
  | other c s absent ih =>
      rw [replaceFrom_other absent, List.cons_append, List.cons_append]
      refine .cons c ?_
      rw [after_outside (hs c (by simp))]
      exact ih fun d hd => hs d (by simp [hd])

theorem replaceEach_cons {r : Text × Text} (hr : isRespacing r) (rs : Replacements) (s : Text) :
    replaceEach (r :: rs) s = replaceEach rs (Text.replaceFrom r.1 r.2 0 s) := by
  simp [replaceEach, Text.replaceAll, isRespacing_ne_nil hr]

theorem replaceEach_nil {rs : Replacements} (hrs : ∀ r ∈ rs, isRespacing r) :
    replaceEach rs [] = [] := by
  induction rs with
  | nil => rfl
  | cons r rs ih =>
      rw [replaceEach_cons (hrs r (by simp))]
      exact ih fun r' hr' => hrs r' (by simp [hr'])

theorem replaceEach_head {rs : Replacements} (hrs : ∀ r ∈ rs, isRespacing r) (s : Text) :
    (replaceEach rs s).head? = s.head? := by
  induction rs generalizing s with
  | nil => rfl
  | cons r rs ih =>
      have hr := hrs r (by simp)
      rw [replaceEach_cons hr, ih (fun r' hr' => hrs r' (by simp [hr'])), replaceFrom_head hr]

theorem replaceEach_respaced {rs : Replacements} (hrs : ∀ r ∈ rs, isRespacing r) {s t u : Text}
    (hs : ∀ c ∈ s, isQuote c = false) (h : Respaced .outside t u) :
    Respaced .outside (replaceEach rs s ++ t) (s ++ u) := by
  induction rs generalizing s with
  | nil =>
      exact .append s (by rwa [foldl_after_unquoted hs])
  | cons r rs ih =>
      have hr : isRespacing r := hrs r (by simp)
      obtain ⟨-, new, -⟩ := isRespacing_parts hr
      have unquoted : ∀ c ∈ Text.replaceFrom r.1 r.2 0 s, isQuote c = false := by
        intro c hc
        exact (mem_replaceFrom hc).elim (isSeamRun_unquoted new c) (hs c)
      have first := replaceFrom_respaced hr hs (.refl .outside u)
      have rest := ih (fun r' hr' => hrs r' (by simp [hr'])) unquoted
      rw [replaceEach_cons hr]
      exact rest.trans first

/-! ## Runs of a text -/

theorem scanFrom_append (p : Place) (t u : Text) :
    scanFrom p (t ++ u) = scanFrom p t ++ scanFrom (t.foldl Place.after p) u := by
  induction t generalizing p with
  | nil => rfl
  | cons c t ih => simp only [List.cons_append, scanFrom, ih, List.foldl_cons]

theorem scanFrom_map_fst (p : Place) (t : Text) : (scanFrom p t).map (·.1) = t := by
  induction t generalizing p with
  | nil => rfl
  | cons c t ih => simp only [scanFrom, List.map_cons, ih]

/-- Taking the runs apart again gives the characters back. -/
theorem runs_flatMap (cs : List (Char × Bool)) :
    (runs cs).flatMap (fun run => run.1.map (·, run.2)) = cs := by
  induction cs with
  | nil => rfl
  | cons x cs ih =>
      obtain ⟨c, q⟩ := x
      simp only [runs]
      split
      · rename_i none
        rw [none] at ih
        simpa using ih
      · rename_i t r more some
        rw [some] at ih
        split
        · rename_i same
          rw [beq_iff_eq] at same
          subst same
          simpa using ih
        · simpa using ih

theorem unquoted_run {p : Place} {c : Char} {t : Text}
    (h : scanFrom p (c :: t) = (c :: t).map (·, false)) :
    p = .outside ∧ ∀ d ∈ c :: t, isQuote d = false := by
  induction t generalizing c p with
  | nil =>
      cases p <;> simp [scanFrom, Place.quotes] at h
      exact ⟨rfl, by simpa using h⟩
  | cons d t ih =>
      rw [scanFrom, List.map_cons, List.cons_eq_cons] at h
      obtain ⟨head, tail⟩ := h
      cases p with
      | inside q e => simp [Place.quotes] at head
      | outside =>
          have hc : isQuote c = false := by simpa [Place.quotes] using head
          rw [after_outside hc] at tail
          have hd := (ih tail).2
          refine ⟨rfl, fun e he => ?_⟩
          rcases List.mem_cons.mp he with rfl | he
          · exact hc
          · exact hd e he

/-- Changing the unquoted runs of a text one by one respaces the text. -/
theorem runs_respaced {rs : Replacements} (hrs : ∀ r ∈ rs, isRespacing r)
    (parts : List (Text × Bool)) {p : Place} {t : Text}
    (h : parts.flatMap (fun run => run.1.map (·, run.2)) = scanFrom p t) :
    Respaced p (parts.flatMap fun run => if run.2 then run.1 else replaceEach rs run.1) t := by
  induction parts generalizing p t with
  | nil =>
      cases t with
      | nil => exact .refl p []
      | cons c t => simp [scanFrom] at h
  | cons run parts ih =>
      obtain ⟨s, q⟩ := run
      simp only [List.flatMap_cons] at h ⊢
      have text := congrArg (List.map (·.1)) h
      rw [scanFrom_map_fst, List.map_append, List.map_map] at text
      simp only [Function.comp_def, List.map_id'] at text
      subst t
      rw [scanFrom_append] at h
      have length : (scanFrom p s).length = s.length := by
        simpa using congrArg List.length (scanFrom_map_fst p s)
      have split := List.append_inj h (by simp [length])
      have rest := ih split.2
      cases q with
      | true => exact .append s rest
      | false =>
          cases s with
          | nil =>
              rw [if_neg (by simp), replaceEach_nil hrs]
              exact rest
          | cons c s =>
              obtain ⟨rfl, unquoted⟩ := unquoted_run split.1.symm
              rw [foldl_after_unquoted unquoted] at rest
              exact replaceEach_respaced hrs unquoted rest

theorem runs_cons (c : Char) (q : Bool) (cs : List (Char × Bool)) :
    ∃ s more, runs ((c, q) :: cs) = (c :: s, q) :: more := by
  simp only [runs]
  split
  · exact ⟨_, _, rfl⟩
  · split
    · exact ⟨_, _, rfl⟩
    · exact ⟨_, _, rfl⟩

theorem replaceUnquoted_head {rs : Replacements} (hrs : ∀ r ∈ rs, isRespacing r) (t : Text) :
    (replaceUnquoted rs t).head? = t.head? := by
  cases t with
  | nil => rfl
  | cons c t =>
      obtain ⟨s, more, eq⟩ := runs_cons c (Place.outside.quotes c) (scanFrom (.after .outside c) t)
      rw [replaceUnquoted, scan, scanFrom, eq, List.flatMap_cons]
      split
      · rfl
      · have first := replaceEach_head hrs (c :: s)
        rw [List.head?_append_of_ne_nil, first]
        · rfl
        · rintro none
          rw [none] at first
          cases first

theorem replaceUnquoted_respaced {rs : Replacements} (hrs : ∀ r ∈ rs, isRespacing r) (t : Text) :
    Respaced .outside (replaceUnquoted rs t) t :=
  runs_respaced hrs _ (runs_flatMap (scan t))

theorem arrayReplacements?_respacing {depth : Int} {rs : Replacements}
    (h : arrayReplacements? depth = some rs) : ∀ r ∈ rs, isRespacing r := by
  unfold arrayReplacements? at h
  split at h
  · cases h
    decide
  · split at h
    · cases h
      decide
    · split at h
      · cases h
        decide
      · cases h

/-- Laying out an array changes the spacing beside brackets and commas and nothing else. -/
theorem layArray_respaced (t : Text) (depth : Int) : Respaced .outside (layArray t depth) t := by
  unfold layArray
  split
  · exact .refl .outside t
  · split
    · rename_i rs h
      exact replaceUnquoted_respaced (arrayReplacements?_respacing h) t
    · exact formatNested_respaced t standardIndent

/-- A layout starts with the bracket that its text starts with. -/
theorem layArray_head (t : Text) (depth : Int) : ∃ u, layArray ('[' :: t) depth = '[' :: u := by
  unfold layArray
  split
  · exact ⟨t, rfl⟩
  · split
    · rename_i rs h
      have head := replaceUnquoted_head (arrayReplacements?_respacing h) ('[' :: t)
      cases e : replaceUnquoted rs ('[' :: t) with
      | nil =>
          rw [e] at head
          cases head
      | cons c u =>
          rw [e] at head
          cases head
          exact ⟨u, rfl⟩
    · exact ⟨_, rfl⟩

end Stencil.Layout

import Stencil.Proofs.Layout.Respaced
import Stencil.Proofs.Literal.Quoted

/-! # Spellings of tokens

A text spells tokens when it is their words and marks in order with spacing
between them. Spelled text is cut into these tokens again, and a respaced form
of it spells the same tokens as long as its line feeds stay inside of brackets.
How tokens follow each other does not matter here.
-/

namespace Stencil.Literal

open Layout

/-- Whether a word may end in front of a text. -/
def EndsWord (t : Text) : Prop := ∀ c ∈ t.head?, isMark c ∨ isSpacer c

/-- Text from a place on without spacing and seams outside of quotes, which it ends. -/
def Solid (p : Place) : Text → Prop
  | [] => p = .outside
  | c :: t => (p = .outside → isSpacer c = false ∧ isSeam c = false) ∧ Solid (p.after c) t

/-- A character that blanks, comments and continued lines do not start with, and that makes no
    operator of a colon in front of it. -/
def startsWord (c : Char) : Bool :=
  !isSpacing c && c != '\n' && c != '#' && c != '\\' && c != '='

/-- A word that is read as one token wherever a word may end behind it. -/
structure Lexeme (w : Text) (token : Token) : Prop where
  start : ∃ c t, w = c :: t ∧ startsWord c
  solid : Solid .outside w
  printable : ∀ c ∈ w, isPrintable c
  read : ∀ rest, EndsWord rest → readToken (w ++ rest) = some (token, rest)
  level : ∀ d, openBrackets d token = d

/-- A text that spells tokens, `d` brackets being open. A line feed needs an open bracket as long
    as tokens follow. -/
inductive Spelled : Nat → Text → List Token → Prop where
  | tail {d g} : (∀ c ∈ g, isSpacer c) → Spelled d g []
  | space {d t ts} : Spelled d t ts → Spelled d (' ' :: t) ts
  | line {d t ts} : 0 < d → Spelled d t ts → Spelled d ('\n' :: t) ts
  | mark {d c t ts} : isMark c → Spelled (openBrackets d (.mark c)) t ts →
      Spelled d (c :: t) (.mark c :: ts)
  | word {d w token t ts} : Lexeme w token → EndsWord t → Spelled d t ts →
      Spelled d (w ++ t) (token :: ts)

/-! ## Cutting spelled text -/

theorem isMark_cases {c} (h : isMark c) :
    c ∈ ['(', ')', '[', ']', '{', '}', ',', ':', '+', '-'] := by
  simpa only [isMark, decide_eq_true_eq] using h

theorem mark_facts {c} (h : isMark c) : startsWord c ∧ isPrintable c ∧ isQuote c = false ∧
    isSpacer c = false := by
  have all : ∀ c ∈ ['(', ')', '[', ']', '{', '}', ',', ':', '+', '-'], startsWord c ∧
      isPrintable c ∧ isQuote c = false ∧ isSpacer c = false :=
    List.all_iff_forall_prop.mp (by decide)
  exact all c (isMark_cases h)

theorem tokensFrom_spacing {d started} {c : Char} {t : Text}
    (h : isSpacing c ∨ (c = '\n' ∧ 0 < d)) :
    tokensFrom d started (c :: t) = tokensFrom d started t := by
  rw [tokensFrom.eq_def]
  rcases h with h | ⟨rfl, h⟩
  · simp [h]
  · simp [h, isSpacing]

theorem tokensFrom_token {d started} {c : Char} {t rest : Text} {token : Token}
    (hc : startsWord c) (hr : readToken (c :: t) = some (token, rest))
    (shorter : rest.length ≤ t.length) :
    tokensFrom d started (c :: t) =
      (tokensFrom (openBrackets d token) true rest).map (token :: ·) := by
  simp only [startsWord, Bool.and_eq_true, Bool.not_eq_true', bne_iff_ne] at hc
  obtain ⟨⟨⟨⟨h1, h2⟩, h3⟩, h4⟩, -⟩ := hc
  rw [tokensFrom.eq_def]
  simp [h1, h2, h3, h4, hr, shorter]

theorem isTrivia_spacers {g : Text} (h : ∀ c ∈ g, isSpacer c) : isTrivia false g := by
  induction g with
  | nil => rfl
  | cons c g ih =>
      have rest := ih fun e he => h e (by simp [he])
      rcases isSpacer_cases (h c (by simp)) with rfl | rfl <;> simp [isTrivia, isSpacing, rest]

theorem tokensFrom_spacers (d : Nat) {g : Text} (h : ∀ c ∈ g, isSpacer c) :
    tokensFrom d true g = some [] := by
  induction g with
  | nil => rw [tokensFrom]
  | cons c g ih =>
      have hg : ∀ e ∈ g, isSpacer e := fun e he => h e (by simp [he])
      rcases isSpacer_cases (h c (by simp)) with rfl | rfl
      · rw [tokensFrom_spacing (.inl rfl), ih hg]
      · cases d with
        | zero =>
            rw [tokensFrom.eq_def]
            simp [isSpacing, isTrivia_spacers hg]
        | succ d => rw [tokensFrom_spacing (.inr ⟨rfl, d.succ_pos⟩), ih hg]

theorem startsWord_ne {c : Char} (h : startsWord c) : c ≠ '=' := by
  rintro rfl
  cases h

/-- Nothing spelled starts with what makes an operator of a colon. -/
theorem Spelled.head_ne {d t ts} (h : Spelled d t ts) : t.head? ≠ some '=' := by
  intro e
  cases h with
  | @tail d g hg =>
      have spacer := hg '=' (List.mem_of_mem_head? e)
      cases spacer
  | space => cases e
  | line => cases e
  | mark hc =>
      cases e
      cases hc
  | word hw ht =>
      obtain ⟨c, u, rfl, hc⟩ := hw.start
      exact startsWord_ne hc (Option.some.inj e)

theorem readToken_mark {c : Char} {t : Text} (hc : isMark c) (ht : t.head? ≠ some '=') :
    readToken (c :: t) = some (.mark c, t) := by
  have alone : (c == ':' && t.head? == some '=') = false := by
    rw [beq_eq_false_iff_ne.mpr ht, Bool.and_false]
  simp [readToken, alone, hc]

theorem Spelled.tokensFrom {d t ts} (h : Spelled d t ts) {started : Bool}
    (hs : started ∨ ts ≠ []) : tokensFrom d started t = some ts := by
  induction h generalizing started with
  | tail hg =>
      have : started = true := by simpa using hs
      rw [this, tokensFrom_spacers _ hg]
  | space _ ih => rw [tokensFrom_spacing (.inl rfl), ih hs]
  | line hd _ ih => rw [tokensFrom_spacing (.inr ⟨rfl, hd⟩), ih hs]
  | mark hc ht ih =>
      have read := readToken_mark hc ht.head_ne
      rw [tokensFrom_token (mark_facts hc).1 read (Nat.le_refl _), ih (.inl rfl)]
      rfl
  | @word d w token t ts hw ht _ ih =>
      obtain ⟨c, u, rfl, hc⟩ := hw.start
      have read := hw.read t ht
      rw [List.cons_append] at read ⊢
      rw [tokensFrom_token hc read (by simp), hw.level, ih (.inl rfl)]
      rfl

theorem Spelled.printable {d t ts} (h : Spelled d t ts) :
    ∀ c ∈ t, isPrintable c ∨ c = '\n' := by
  have spacer : ∀ c, isSpacer c → isPrintable c ∨ c = '\n' := by
    intro c hc
    rcases isSpacer_cases hc with rfl | rfl
    · exact .inl rfl
    · exact .inr rfl
  induction h with
  | tail hg => exact fun c hc => spacer c (hg c hc)
  | space _ ih => exact List.forall_mem_cons.mpr ⟨.inl rfl, ih⟩
  | line _ _ ih => exact List.forall_mem_cons.mpr ⟨.inr rfl, ih⟩
  | mark hc _ ih => exact List.forall_mem_cons.mpr ⟨.inl (mark_facts hc).2.1, ih⟩
  | word hw _ _ ih =>
      exact List.forall_mem_append.mpr ⟨fun c hc => .inl (hw.printable c hc), ih⟩

theorem unifyLines_eq {t : Text} (h : '\r' ∉ t) : unifyLines t = t := by
  induction t with
  | nil => rfl
  | cons c t ih =>
      rw [List.mem_cons, not_or] at h
      rw [unifyLines.eq_def]
      split
      · rename_i e
        cases e
      · rename_i e
        cases e
        exact absurd rfl h.1
      · rename_i e
        cases e
        simp [Ne.symm h.1, ih h.2]

theorem Spelled.tokens {t ts} (h : Spelled 0 t ts) (hs : ts ≠ []) : tokens t = some ts := by
  have null : '\x00' ∉ t := by
    intro e
    rcases h.printable _ e with p | p <;> cases p
  have ret : '\r' ∉ t := by
    intro e
    rcases h.printable _ e with p | p <;> cases p
  rw [Literal.tokens, if_neg null, unifyLines_eq ret, h.tokensFrom (.inr hs)]

/-! ## Respaced text -/

/-- Tokens in front of each of which a bracket is open. -/
def Enclosed : Nat → List Token → Prop
  | _, [] => True
  | d, token :: ts => 0 < d ∧ Enclosed (openBrackets d token) ts

theorem mem_tightenFrom {p seam} {t : Text} {c : Char} (h : c ∈ tightenFrom p seam t) : c ∈ t := by
  induction t generalizing p seam with
  | nil => exact h
  | cons e t ih =>
      simp only [tightenFrom] at h
      split at h
      · split at h
        · exact List.mem_cons_of_mem _ (ih h)
        · exact (List.mem_cons.mp h).elim (fun e => e ▸ List.mem_cons_self ..)
            fun h => List.mem_cons_of_mem _ (ih h)
      · exact (List.mem_cons.mp h).elim (fun e => e ▸ List.mem_cons_self ..)
          fun h => List.mem_cons_of_mem _ (ih h)

theorem isSeam_isMark {c} (h : isSeam c) : isMark c := by
  simp only [isSeam, Bool.or_eq_true, beq_iff_eq] at h
  rcases h with (rfl | rfl) | rfl <;> rfl

/-- Spacing goes away in front of a seam only when the seam is what is left first. -/
theorem tightenFrom_meets {u : Text} (h : meetsSeam u) (seam : Bool) :
    ∃ c v, tightenFrom .outside seam u = c :: v ∧ isSeam c := by
  induction u with
  | nil => cases h
  | cons e u ih =>
      cases he : isSpacer e with
      | true =>
          simp only [meetsSeam, he, if_true] at h
          simpa [tightenFrom, he, h] using ih h
      | false =>
          have hs : isSeam e := by simpa [meetsSeam, he] using h
          exact ⟨e, _, by simp [tightenFrom, he]; rfl, hs⟩

theorem EndsWord.tighten {t} (h : EndsWord t) : EndsWord (tightenFrom .outside false t) := by
  cases t with
  | nil => exact h
  | cons c t =>
      simp only [tightenFrom]
      split
      · split
        · rename_i met
          obtain ⟨e, v, ev, he⟩ := tightenFrom_meets (by simpa using met) false
          rw [ev]
          simp [EndsWord, isSeam_isMark he]
        · exact h
      · exact h

/-- A character of solid text is no seam where it stands. -/
theorem not_seam_of_solid {p c w} (h : Solid p (c :: w)) :
    (decide (p = .outside) && isSeam c) = false := by
  by_cases hp : p = .outside
  · simp [(h.1 hp).2]
  · simp [hp]

theorem tightenFrom_solid {p w} (h : Solid p w) (t : Text) :
    tightenFrom p false (w ++ t) = w ++ tightenFrom .outside false t := by
  induction w generalizing p with
  | nil =>
      rw [Solid] at h
      subst h
      rfl
  | cons c w ih =>
      have kept : ¬ (p = .outside ∧ isSpacer c) := by
        rintro ⟨rfl, hc⟩
        rw [(h.1 rfl).1] at hc
        cases hc
      rw [List.cons_append, tightenFrom, if_neg kept, not_seam_of_solid h, ih h.2,
        List.cons_append]

theorem Lexeme.tighten {w token} (h : Lexeme w token) (seam : Bool) (t : Text) :
    tightenFrom .outside seam (w ++ t) = w ++ tightenFrom .outside false t := by
  obtain ⟨c, u, rfl, -⟩ := h.start
  have head : isSpacer c = false := (h.solid.1 rfl).1
  rw [← tightenFrom_solid h.solid]
  simp [tightenFrom, head]

theorem Spelled.tighten {d t ts} (h : Spelled d t ts) (seam : Bool) :
    Spelled d (tightenFrom .outside seam t) ts := by
  induction h generalizing seam with
  | tail hg => exact .tail fun c hc => hg c (mem_tightenFrom hc)
  | space _ ih =>
      rw [tightenFrom, if_pos ⟨rfl, rfl⟩]
      split
      · exact ih seam
      · exact .space (ih seam)
  | line hd _ ih =>
      rw [tightenFrom, if_pos ⟨rfl, rfl⟩]
      split
      · exact ih seam
      · exact .line hd (ih seam)
  | mark hc _ ih =>
      obtain ⟨-, -, quote, spacer⟩ := mark_facts hc
      rw [tightenFrom, if_neg (by simp [spacer]), after_outside quote]
      exact .mark hc (ih _)
  | word hw ht _ ih =>
      rw [hw.tighten]
      exact .word hw ht.tighten (ih false)

/-- In front of the first character of a tightened text only spacing went away. -/
theorem cons_of_tighten {seam c u w} (e : tightenFrom .outside seam u = c :: w) :
    ∃ g v, u = g ++ c :: v ∧ (∀ b ∈ g, isSpacer b) ∧
      tightenFrom (Place.outside.after c) (isSeam c) v = w := by
  induction u with
  | nil => cases e
  | cons b u ih =>
      rw [tightenFrom] at e
      split at e
      · rename_i hb
        have spacer := hb.2
        split at e
        · obtain ⟨g, v, rfl, hg, rest⟩ := ih e
          exact ⟨b :: g, v, rfl, List.forall_mem_cons.mpr ⟨spacer, hg⟩, rest⟩
        · rename_i kept
          obtain ⟨rfl, rest⟩ := List.cons.inj e
          have seamless : isSeam b = false := by
            cases hs : isSeam b with
            | false => rfl
            | true =>
                rw [seam_not_spacer hs] at spacer
                cases spacer
          have start : seam = false := by
            cases seam with
            | false => rfl
            | true => simp at kept
          refine ⟨[], u, rfl, by simp, ?_⟩
          rw [seamless, after_outside (spacer_not_quote spacer), ← start]
          exact rest
      · obtain ⟨rfl, rest⟩ := List.cons.inj e
        exact ⟨[], u, rfl, by simp, by simpa using rest⟩

/-- Where the tightened text goes on with a word, the text itself does. -/
theorem solid_of_tighten {p w} (h : Solid p w) {u t : Text}
    (e : tightenFrom p false u = w ++ t) :
    ∃ v, u = w ++ v ∧ tightenFrom .outside false v = t := by
  induction w generalizing p u with
  | nil =>
      rw [Solid] at h
      subst h
      exact ⟨u, rfl, e⟩
  | cons c w ih =>
      cases u with
      | nil => cases e
      | cons b u =>
          rw [tightenFrom] at e
          split at e
          · -- spacing is either gone in front of a seam or kept, and the word starts with neither
            rename_i hb
            obtain ⟨rfl, hb⟩ := hb
            split at e
            · rename_i met
              obtain ⟨s, v, ev, hs⟩ := tightenFrom_meets (by simpa using met) false
              rw [ev] at e
              cases e
              rw [(h.1 rfl).2] at hs
              cases hs
            · rw [(List.cons.inj e).1, (h.1 rfl).1] at hb
              cases hb
          · obtain ⟨rfl, rest⟩ := List.cons.inj e
            rw [not_seam_of_solid h] at rest
            obtain ⟨v, rfl, ev⟩ := ih h.2 rest
            exact ⟨v, rfl, ev⟩

theorem EndsWord.of_tighten {t} (h : EndsWord (tightenFrom .outside false t)) : EndsWord t := by
  cases t with
  | nil => simp [EndsWord]
  | cons c t =>
      cases hc : isSpacer c with
      | true => simp [EndsWord, hc]
      | false =>
          simp only [tightenFrom, hc] at h
          simpa [EndsWord, hc] using h

theorem spacers_of_tighten {seam} {t : Text}
    (h : ∀ c ∈ tightenFrom .outside seam t, isSpacer c) : ∀ c ∈ t, isSpacer c := by
  induction t generalizing seam with
  | nil => exact h
  | cons c t ih =>
      rw [tightenFrom] at h
      split at h
      · rename_i hc
        refine List.forall_mem_cons.mpr ⟨hc.2, ?_⟩
        split at h
        · exact ih h
        · exact ih (List.forall_mem_cons.mp h).2
      · rename_i hc
        exact absurd ⟨rfl, h c (by simp)⟩ hc

theorem Spelled.no_tokens {d t} (h : Spelled d t []) : ∀ c ∈ t, isSpacer c := by
  generalize e : ([] : List Token) = ts at h
  induction h with
  | tail hg => exact hg
  | space _ ih => exact List.forall_mem_cons.mpr ⟨rfl, ih e⟩
  | line _ _ ih => exact List.forall_mem_cons.mpr ⟨rfl, ih e⟩
  | mark => cases e
  | word => cases e

theorem Spelled.spacers {d g t ts} (hd : 0 < d) (hg : ∀ c ∈ g, isSpacer c)
    (h : Spelled d t ts) : Spelled d (g ++ t) ts := by
  induction g with
  | nil => exact h
  | cons c g ih =>
      have rest := ih fun e he => hg e (by simp [he])
      rcases isSpacer_cases (hg c (by simp)) with rfl | rfl
      · exact .space rest
      · exact .line hd rest

theorem Spelled.enclosed_spacers {d g t ts} (he : Enclosed d ts) (hg : ∀ c ∈ g, isSpacer c)
    (h : Spelled d t ts) : Spelled d (g ++ t) ts := by
  cases ts with
  | nil => exact .tail (List.forall_mem_append.mpr ⟨hg, h.no_tokens⟩)
  | cons token ts => exact h.spacers he.1 hg

theorem Spelled.of_tighten {d seam u ts} (h : Spelled d (tightenFrom .outside seam u) ts)
    (he : Enclosed d ts) : Spelled d u ts := by
  generalize e : tightenFrom .outside seam u = t at h
  induction h generalizing u seam with
  | tail hg => exact .tail (spacers_of_tighten (by rwa [e]))
  | space _ ih =>
      obtain ⟨g, v, rfl, hg, rest⟩ := cons_of_tighten e
      exact .enclosed_spacers he hg (.space (ih he rest))
  | line hd _ ih =>
      obtain ⟨g, v, rfl, hg, rest⟩ := cons_of_tighten e
      exact .enclosed_spacers he hg (.line hd (ih he rest))
  | mark hc _ ih =>
      obtain ⟨g, v, rfl, hg, rest⟩ := cons_of_tighten e
      rw [after_outside (mark_facts hc).2.2.1] at rest
      exact .enclosed_spacers he hg (.mark hc (ih he.2 rest))
  | @word d w token t ts hw ht _ ih =>
      obtain ⟨b, w, rfl, -⟩ := hw.start
      obtain ⟨g, v, rfl, hg, rest⟩ := cons_of_tighten e
      rw [(hw.solid.1 rfl).2] at rest
      obtain ⟨v, rfl, ev⟩ := solid_of_tighten hw.solid.2 rest
      have enclosed : Enclosed d ts := hw.level d ▸ he.2
      exact .enclosed_spacers he hg (.word hw (.of_tighten (ev ▸ ht)) (ih enclosed ev))

/-- A respaced form of bracketed text spells the same tokens. -/
theorem Spelled.respaced {t u ts} (h : Spelled 0 ('[' :: t) (.mark '[' :: ts))
    (he : Enclosed 1 ts) (hr : Respaced .outside ('[' :: u) ('[' :: t)) :
    Spelled 0 ('[' :: u) (.mark '[' :: ts) := by
  have inner : Spelled 1 t ts := by
    generalize e : '[' :: t = v at h
    generalize e' : Token.mark '[' :: ts = vs at h
    cases h with
    | tail => cases e'
    | space => cases e
    | line => cases e
    | mark _ rest =>
        cases e
        cases e'
        exact rest
    | word hw =>
        cases e'
        cases hw.level 0
  have tight := hr false
  rw [tightenFrom_seam rfl, tightenFrom_seam rfl] at tight
  have tightened : Spelled 1 (tightenFrom .outside true u) ts := by
    rw [(List.cons.inj tight).2]
    exact inner.tighten true
  exact .mark rfl (tightened.of_tighten he)

end Stencil.Literal

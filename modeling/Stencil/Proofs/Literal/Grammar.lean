import Stencil.Proofs.Literal.Lexeme
import Stencil.Proofs.Literal.Reading

/-! # Texts that denote a literal

A text denotes a literal when it spells tokens that are read as this literal.
Elements between brackets may have spacing around them and a comma behind the
last one, so that text on one line and text on several lines are two cases of the
same thing. Respacing bracketed text does not change what it denotes.
-/

namespace Stencil.Literal

open Layout

/-! ## Phrases -/

/-- A text with closed brackets that spells tokens wherever at least `level` brackets are open. -/
structure Phrase (level : Nat) (w : Text) (ts : List Token) : Prop where
  spells : ∀ {d rest us}, level ≤ d → EndsWord rest → Spelled d rest us →
    Spelled d (w ++ rest) (ts ++ us)
  encloses : ∀ {d us}, 0 < d → Enclosed d us → Enclosed d (ts ++ us)

namespace Phrase

variable {n : Nat} {w v : Text} {ts us : List Token}

theorem deepen (h : Phrase 0 w ts) : Phrase n w ts where
  spells _ := h.spells (Nat.zero_le _)
  encloses := h.encloses

theorem nil : Phrase n [] [] where
  spells _ _ h := h
  encloses _ h := h

theorem word {token : Token} (h : Lexeme w token) : Phrase n w [token] where
  spells _ hr hs := .word h hr hs
  encloses hd hs := ⟨hd, by rwa [h.level]⟩

/-- Two phrases with a mark between them that is no bracket. -/
theorem mark {c : Char} (hc : isMark c) (level : ∀ d, openBrackets d (.mark c) = d)
    (hw : Phrase n w ts) (hv : Phrase n v us) :
    Phrase n (w ++ c :: v) (ts ++ .mark c :: us) where
  spells hd hr hs := by
    have inner := hv.spells hd hr hs
    rw [List.append_assoc, List.append_assoc]
    refine hw.spells hd ?_ (.mark hc (by rwa [level]))
    simp [EndsWord, hc]
  encloses hd hs := by
    rw [List.append_assoc]
    exact hw.encloses hd ⟨hd, by rw [level]; exact hv.encloses hd hs⟩

theorem padded {g h : Text} (hg : ∀ c ∈ g, isSpacer c) (hh : ∀ c ∈ h, isSpacer c)
    (hw : Phrase 1 w ts) : Phrase 1 (g ++ w ++ h) ts where
  spells {d rest us} hd hr hs := by
    have ends : EndsWord (h ++ rest) := by
      cases h with
      | nil => exact hr
      | cons c h => simp [EndsWord, hh c (by simp)]
    rw [List.append_assoc, List.append_assoc]
    exact .spacers hd hg (hw.spells hd ends (.spacers hd hh hs))
  encloses := hw.encloses

theorem bracket {o c : Char} (ho : o ∈ ['(', '[', '{']) (hc : c ∈ [')', ']', '}'])
    (h : Phrase 1 w ts) : Phrase n (o :: (w ++ [c])) (.mark o :: (ts ++ [.mark c])) := by
  have up : ∀ d, openBrackets d (.mark o) = d + 1 := fun d => if_pos ho
  have down : ∀ d, openBrackets (d + 1) (.mark c) = d := by
    intro d
    simp only [List.mem_cons, List.not_mem_nil, or_false] at hc
    rcases hc with rfl | rfl | rfl <;> rfl
  have marks : isMark o ∧ isMark c := by
    simp only [List.mem_cons, List.not_mem_nil, or_false] at ho hc
    rcases ho with rfl | rfl | rfl <;> rcases hc with rfl | rfl | rfl <;> decide
  refine ⟨fun {d rest us} _ _ hs => ?_, fun {d us} hd hs => ?_⟩
  · have closing : Spelled (d + 1) (c :: rest) (.mark c :: us) :=
      .mark marks.2 (by rwa [down])
    have inner := h.spells (Nat.le_add_left 1 d) (by simp [EndsWord, marks.2]) closing
    rw [List.cons_append, List.cons_append, List.append_assoc, List.append_assoc]
    exact .mark marks.1 (by rwa [up])
  · have closing : Enclosed (d + 1) (.mark c :: us) := ⟨d.succ_pos, by rwa [down]⟩
    rw [List.cons_append, List.append_assoc]
    exact ⟨hd, by rw [up]; exact h.encloses d.succ_pos closing⟩

end Phrase

/-! ## Denotation -/

/-- A text that is read as a literal wherever an element may stand. -/
def Denotes (w : Text) (l : Literal) : Prop := ∃ ts, Phrase 0 w ts ∧ Reads ts l

/-- A text that is read as the elements between brackets; `trail` when there is nothing behind
    the last comma. -/
def DenotesItems (w : Text) (xs : List Literal) (trail : Bool) : Prop :=
  ∃ ts, Phrase 1 w ts ∧ Items ts xs trail

/-- A text that is read as the entries between braces. -/
def DenotesEntries (w : Text) (es : List (Literal × Literal)) : Prop :=
  ∃ ts, Phrase 1 w ts ∧ Entries ts es

namespace DenotesItems

theorem none : DenotesItems [] [] true := ⟨[], .nil, .none⟩

theorem last {w x} (hx : Denotes w x) : DenotesItems w [x] false := by
  obtain ⟨ts, hw, ht⟩ := hx
  exact ⟨ts, hw.deepen, .last ht⟩

theorem more {w t x xs trail} (hx : Denotes w x) (h : DenotesItems t xs trail) :
    DenotesItems (w ++ ',' :: t) (x :: xs) trail := by
  obtain ⟨ts, hw, ht⟩ := hx
  obtain ⟨us, hv, hu⟩ := h
  exact ⟨_, hw.deepen.mark rfl (fun _ => rfl) hv, .more ht hu⟩

theorem padded {g h t xs trail} (hg : ∀ c ∈ g, isSpacer c) (hh : ∀ c ∈ h, isSpacer c)
    (ht : DenotesItems t xs trail) : DenotesItems (g ++ t ++ h) xs trail := by
  obtain ⟨ts, hw, hx⟩ := ht
  exact ⟨ts, hw.padded hg hh, hx⟩

theorem comma {t xs} (h : DenotesItems t xs false) : DenotesItems (t ++ [',']) xs true := by
  obtain ⟨ts, hw, hx⟩ := h
  exact ⟨_, hw.mark rfl (fun _ => rfl) .nil, hx.comma⟩

theorem list {t xs trail} (h : DenotesItems t xs trail) :
    Denotes ('[' :: (t ++ [']'])) (.list xs) := by
  obtain ⟨ts, hw, hx⟩ := h
  exact ⟨_, hw.bracket (by decide) (by decide), reads_list hx⟩

theorem tuple {t xs trail} (h : DenotesItems t xs trail) (hc : trail ∨ 2 ≤ xs.length) :
    Denotes ('(' :: (t ++ [')'])) (.tuple xs) := by
  obtain ⟨ts, hw, hx⟩ := h
  exact ⟨_, hw.bracket (by decide) (by decide), reads_tuple hx hc⟩

end DenotesItems

namespace DenotesEntries

theorem none : DenotesEntries [] [] := ⟨[], .nil, .none⟩

theorem last {w v k x} (hk : Denotes w k) (hx : Denotes v x) :
    DenotesEntries (w ++ ':' :: ' ' :: v) [(k, x)] := by
  obtain ⟨ts, hw, ht⟩ := hk
  obtain ⟨us, hv, hu⟩ := hx
  have value := hv.deepen.padded (g := [' ']) (h := []) (by simp [isSpacer]) (by simp)
  rw [List.append_nil] at value
  exact ⟨_, hw.deepen.mark rfl (fun _ => rfl) value, .last ht hu⟩

theorem more {w v t k x es} (hk : Denotes w k) (hx : Denotes v x) (h : DenotesEntries t es) :
    DenotesEntries (w ++ ':' :: ' ' :: (v ++ ',' :: t)) ((k, x) :: es) := by
  obtain ⟨ts, hw, ht⟩ := hk
  obtain ⟨us, hv, hu⟩ := hx
  obtain ⟨vs, hr, hs⟩ := h
  have value := hv.deepen.padded (g := [' ']) (h := []) (by simp [isSpacer]) (by simp)
  rw [List.append_nil] at value
  have rest := value.mark (c := ',') rfl (fun _ => rfl) hr
  exact ⟨_, hw.deepen.mark rfl (fun _ => rfl) rest, .more ht hu hs⟩

theorem padded {g h t es} (hg : ∀ c ∈ g, isSpacer c) (hh : ∀ c ∈ h, isSpacer c)
    (ht : DenotesEntries t es) : DenotesEntries (g ++ t ++ h) es := by
  obtain ⟨ts, hw, hx⟩ := ht
  exact ⟨ts, hw.padded hg hh, hx⟩

theorem dict {t es} (h : DenotesEntries t es) (hk : Keyed es) :
    Denotes ('\x7b' :: (t ++ ['\x7d'])) (.dict es) := by
  obtain ⟨ts, hw, hx⟩ := h
  exact ⟨_, hw.bracket (by decide) (by decide), reads_dict hx hk⟩

end DenotesEntries

/-! ## Scalars -/

theorem denotes_natural (n : Nat) : Denotes (natText n) (.scalar (.int n)) :=
  ⟨_, .word (lexeme_number n), reads_natural n⟩

theorem denotes_negative (n : Nat) :
    Denotes ('-' :: natText (n + 1)) (.scalar (.int (.negSucc n))) :=
  ⟨_, Phrase.nil.mark (c := '-') rfl (fun _ => rfl) (.word (lexeme_number (n + 1))),
    reads_negative n⟩

theorem denotes_text (t : Text) : Denotes (quoted t) (.scalar (.text t)) :=
  ⟨_, .word (lexeme_quoted t), reads_text t⟩

theorem denotes_bytes (bs : List UInt8) : Denotes (quotedBytes bs) (.scalar (.bytes bs)) :=
  ⟨_, .word (lexeme_bytes bs), reads_bytes bs⟩

theorem denotes_none : Denotes "None" (.scalar .none) := ⟨_, .word lexeme_none, reads_none⟩

theorem denotes_bool (b : Bool) :
    Denotes (if b then "True" else "False") (.scalar (.bool b)) :=
  ⟨_, .word (lexeme_bool b), reads_bool b⟩

/-! ## Reading -/

theorem read_spelled {w ts l} (hw : Spelled 0 w ts) (h : Reads ts l) : read w = .ok l := by
  obtain ⟨e, parsed, value⟩ := h.whole
  rw [read, hw.tokens h.ne_nil, Option.bind_some, parsed]
  exact value

theorem Phrase.spelled {w ts} (h : Phrase 0 w ts) : Spelled 0 w ts := by
  have ends : EndsWord [] := by simp [EndsWord]
  have spelled := h.spells (Nat.le_refl 0) ends (.tail (by simp))
  rwa [List.append_nil, List.append_nil] at spelled

theorem Denotes.read {w l} (h : Denotes w l) : read w = .ok l := by
  obtain ⟨ts, hw, hr⟩ := h
  exact read_spelled hw.spelled hr

/-- Spacing beside the brackets and commas of a list may be changed. -/
theorem read_respaced {t u xs trail} (h : DenotesItems t xs trail)
    (hr : Respaced .outside ('[' :: u) ('[' :: (t ++ [']']))) :
    read ('[' :: u) = .ok (.list xs) := by
  obtain ⟨ts, hw, hx⟩ := h
  have phrase : Phrase 0 ('[' :: (t ++ [']'])) _ := hw.bracket (by decide) (by decide)
  have closing : Enclosed 1 [.mark ']'] := ⟨Nat.one_pos, trivial⟩
  have enclosed := hw.encloses Nat.one_pos closing
  exact read_spelled (phrase.spelled.respaced enclosed hr) (reads_list hx)

end Stencil.Literal

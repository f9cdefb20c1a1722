import Stencil.Proofs.Template.Placeholder

/-! # The grammar of templates

A text is a template exactly when it is literal texts with their braces doubled
and placeholders in turn. It is so in one way only, and reading gives these
literals and placeholders back, each placeholder with the offset it stands at.
-/

namespace Stencil.Template

/-- Literal text with its braces doubled. -/
def escape (t : Text) : Text := t.flatMap fun c => if c = '\x7b' ∨ c = '\x7d' then [c, c] else [c]

/-- The text of a template: literal texts with the placeholders behind them, and the text behind
    the last placeholder. -/
def join : List (Text × Text) → Text → Text
  | [], tail => escape tail
  | (l, raw) :: pieces, tail => escape l ++ raw ++ join pieces tail

/-- The pieces of a template: in each the second text is a placeholder. -/
def Pieces (pieces : List (Text × Text)) : Prop := ∀ p ∈ pieces, IsPlaceholder p.2

/-- A template that has been read from pieces and the text behind them. -/
structure Describes (pieces : List (Text × Text)) (tail : Text) (t : Template) : Prop where
  literals : t.literals = pieces.map (·.1) ++ [tail]
  raws : t.placeholders.map (·.raw) = pieces.map (·.2)
  parts : ∀ before l raw after, pieces = before ++ (l, raw) :: after →
    ∃ p body front, t.placeholders[before.length]? = some p ∧
      Parts raw body front p.spec p.reference ∧ p.expression = Text.trim front ∧
      p.position = (join before l).length

/-! ## Placeholders in their places -/

/-- Literal texts and placeholders of a text that begins at an offset. -/
inductive Placed : Nat → List (Text × Placeholder) → Prop where
  | nil {n} : Placed n []
  | cons {n l p body front spans} : Parts p.raw body front p.spec p.reference →
      p.expression = Text.trim front → p.position = n + (escape l).length →
      Placed (p.position + p.raw.length) spans → Placed n ((l, p) :: spans)

/-- The texts that a template was read from. -/
def sources (spans : List (Text × Placeholder)) : List (Text × Text) :=
  spans.map fun s => (s.1, s.2.raw)

theorem escape_cons (c : Char) (t : Text) : escape (c :: t) = escape [c] ++ escape t := by
  simp [escape]

theorem escape_brace {c : Char} (h : c = '\x7b' ∨ c = '\x7d') : escape [c] = [c, c] := by
  simp [escape, h]

theorem escape_plain {c : Char} (h : ¬ (c = '\x7b' ∨ c = '\x7d')) : escape [c] = [c] := by
  simp [escape, h]

/-- A template with text in front of its first literal. -/
def addText (l : Text) (t : Template) : Template := l.foldr addChar t

theorem addChar_join (c : Char) (t : Template) :
    join (sources (addChar c t).spans) (addChar c t).tail =
      escape [c] ++ join (sources t.spans) t.tail := by
  obtain ⟨spans, tail⟩ := t
  cases spans with
  | nil => exact escape_cons c tail
  | cons s spans =>
      obtain ⟨l, p⟩ := s
      simp only [addChar, sources, List.map_cons, join]
      rw [escape_cons, List.append_assoc, List.append_assoc, List.append_assoc]

theorem addChar_placed {c : Char} {n : Nat} {t : Template}
    (h : Placed (n + (escape [c]).length) t.spans) : Placed n (addChar c t).spans := by
  obtain ⟨spans, tail⟩ := t
  cases h with
  | nil => exact .nil
  | @cons _ l _ _ _ _ parts expression position rest =>
      refine .cons parts expression ?_ rest
      rw [position, escape_cons c l, List.length_append]
      omega

theorem addText_spans (l x tail : Text) (p : Placeholder) (spans : List (Text × Placeholder)) :
    addText l ⟨(x, p) :: spans, tail⟩ = ⟨(l ++ x, p) :: spans, tail⟩ := by
  induction l with
  | nil => rfl
  | cons c l ih =>
      rw [addText, List.foldr_cons, ← addText, ih]
      rfl

theorem addText_tail (l tail : Text) : addText l ⟨[], tail⟩ = ⟨[], l ++ tail⟩ := by
  induction l with
  | nil => rfl
  | cons c l ih =>
      rw [addText, List.foldr_cons, ← addText, ih]
      rfl

/-! ## Reading -/

theorem readFrom_char {c : Char} (h : ¬ (c = '\x7b' ∨ c = '\x7d')) (n : Nat) (t : Text) :
    readFrom n (c :: t) = (readFrom (n + 1) t).map (addChar c) := by
  rw [not_or] at h
  rw [readFrom]
  · simp [h]
  · simp [h]
  · simp [h]
  · simp [h]

theorem map_addText {r : Except TemplateError Template} (c : Char) (l : Text) :
    (r.map (addText l)).map (addChar c) = r.map (addText (c :: l)) := by
  cases r <;> rfl

theorem readFrom_escape (l : Text) (n : Nat) (t : Text) :
    readFrom n (escape l ++ t) = (readFrom (n + (escape l).length) t).map (addText l) := by
  induction l generalizing n with
  | nil =>
      change readFrom n t = (readFrom n t).map id
      cases readFrom n t <;> rfl
  | cons c l ih =>
      rw [escape_cons, List.append_assoc, List.length_append, ← Nat.add_assoc, ← map_addText,
        ← ih]
      by_cases h : c = '\x7b' ∨ c = '\x7d'
      · rw [escape_brace h]
        rcases h with rfl | rfl
        · rw [List.cons_append, List.singleton_append, readFrom]
          rfl
        · rw [List.cons_append, List.singleton_append, readFrom]
          rfl
      · rw [escape_plain h, List.singleton_append, readFrom_char h]
        rfl

theorem readFrom_open {n : Nat} {t body rest : Text} {p : Placeholder}
    (scanned : scanBody 0 t = .ok (body, rest)) (made : placeholder body n = .ok p) :
    readFrom n ('\x7b' :: t) =
      (readFrom (n + body.length + 2) rest).map (addPlaceholder p) := by
  rw [readFrom.eq_def]
  split
  · rename_i e
    cases e
  · rename_i e
    cases e
    cases scanned
  · rename_i e
    cases e
  · rename_i e
    cases e
  · rename_i e
    cases e
    split
    · rename_i e
      cases scanned.symm.trans e
    · rename_i e
      cases scanned.symm.trans e
      rw [made]
  · rename_i other e
    cases e
    exact (other rfl).elim

theorem readFrom_placeholder {p body front rest t} (h : Parts p.raw body front p.spec p.reference)
    (he : p.expression = Text.trim front)
    (hr : readFrom (p.position + p.raw.length) rest = .ok t) :
    readFrom p.position (p.raw ++ rest) = .ok (addPlaceholder p t) := by
  have scanned : scanBody 0 (body ++ '\x7d' :: rest) = .ok (body, rest) :=
    scanBody_iff.mpr ⟨rfl, h.braceless, closes_zero.mpr h.balanced⟩
  have made : placeholder body p.position = .ok p :=
    (placeholder_iff h.braceless h.balanced).mpr ⟨front, h, he, rfl⟩
  have source : p.raw ++ rest = '\x7b' :: (body ++ '\x7d' :: rest) := by simp [h.braces]
  have length : p.raw.length = body.length + 2 := by simp [h.braces]
  rw [length, ← Nat.add_assoc] at hr
  rw [source, readFrom_open scanned made, hr]
  rfl

theorem readFrom_placed {n spans} (h : Placed n spans) (tail : Text) :
    readFrom n (join (sources spans) tail) = .ok ⟨spans, tail⟩ := by
  induction h with
  | @nil n =>
      have literal := readFrom_escape tail n []
      have empty : ∀ m, readFrom m [] = .ok ⟨[], []⟩ := fun m => by rw [readFrom]
      rw [List.append_nil, empty, Except.map, addText_tail, List.append_nil] at literal
      exact literal
  | @cons n l p body front spans parts expression position rest ih =>
      have placeholder := readFrom_placeholder parts expression ih
      simp only [sources, List.map_cons, join]
      rw [List.append_assoc, readFrom_escape, ← position]
      simp only [sources] at placeholder
      rw [placeholder, Except.map, addPlaceholder, addText_spans, List.append_nil]

/-! ## What has been read -/

/-- What a template that begins at an offset has been read from. -/
def ReadAt (n : Nat) (text : Text) (t : Template) : Prop :=
  text = join (sources t.spans) t.tail ∧ Placed n t.spans

theorem ReadAt.addChar {c n text t} (h : ReadAt (n + (escape [c]).length) text t) :
    ReadAt n (escape [c] ++ text) (addChar c t) :=
  ⟨by rw [addChar_join, ← h.1], addChar_placed h.2⟩

theorem ReadAt.addPlaceholder {p body front rest t} (hp : Parts p.raw body front p.spec p.reference)
    (he : p.expression = Text.trim front) (h : ReadAt (p.position + p.raw.length) rest t) :
    ReadAt p.position (p.raw ++ rest) (addPlaceholder p t) := by
  refine ⟨?_, .cons hp he rfl h.2⟩
  rw [h.1]
  rfl

theorem map_ok {α β ε : Type} {f : α → β} {r : Except ε α} {b : β} (h : r.map f = .ok b) :
    ∃ a, r = .ok a ∧ b = f a := by
  cases r with
  | error => cases h
  | ok a =>
      cases h
      exact ⟨a, rfl, rfl⟩

theorem readFrom_sound {n text t} (h : readFrom n text = .ok t) : ReadAt n text t := by
  fun_induction readFrom n text generalizing t with
  | case1 n =>
      cases h
      exact ⟨rfl, .nil⟩
  | case2 n text ih =>
      obtain ⟨t, read, rfl⟩ := map_ok h
      exact (ih read).addChar (c := '\x7b')
  | case3 n text ih =>
      obtain ⟨t, read, rfl⟩ := map_ok h
      exact (ih read).addChar (c := '\x7d')
  | case4 => cases h
  | case5 => cases h
  | case6 => cases h
  | case7 n text _ body rest scanned p made ih =>
      obtain ⟨t, read, rfl⟩ := map_ok h
      obtain ⟨rfl, braceless, closes⟩ := scanBody_iff.mp scanned
      obtain ⟨front, parts, expression, rfl⟩ :=
        (placeholder_iff braceless (closes_zero.mp closes)).mp made
      have length : p.raw.length = body.length + 2 := by simp [parts.braces]
      have rest := ih read
      rw [Nat.add_assoc, ← length] at rest
      have placed := rest.addPlaceholder parts expression
      rw [parts.braces] at placed
      simpa using placed
  | case8 n c text _ _ close opens ih =>
      obtain ⟨t, read, rfl⟩ := map_ok h
      have plain := escape_plain (c := c) fun hc => hc.elim opens close
      have rest : ReadAt (n + (escape [c]).length) text t := by
        rw [plain]
        exact ih read
      have placed := rest.addChar
      rwa [plain] at placed

/-! ## Pieces -/

theorem placed_of_pieces {pieces} (h : Pieces pieces) (n : Nat) :
    ∃ spans, Placed n spans ∧ sources spans = pieces := by
  induction pieces generalizing n with
  | nil => exact ⟨[], .nil, rfl⟩
  | cons piece pieces ih =>
      obtain ⟨l, raw⟩ := piece
      obtain ⟨body, front, spec, reference, parts⟩ := h (l, raw) (by simp)
      have rest := fun m => ih (fun p hp => h p (by simp [hp])) m
      obtain ⟨spans, placed, same⟩ := rest (n + (escape l).length + raw.length)
      exact ⟨(l, ⟨raw, Text.trim front, spec, n + (escape l).length, reference⟩) :: spans,
        .cons parts rfl rfl placed, congrArg _ same⟩

theorem pieces_of_placed {n spans} (h : Placed n spans) : Pieces (sources spans) := by
  induction h with
  | nil => simp [sources, Pieces]
  | cons parts _ _ _ ih =>
      refine List.forall_mem_cons.mpr ⟨?_, ih⟩
      exact ⟨_, _, _, _, parts⟩

theorem Placed.parts {n spans before l raw after} (h : Placed n spans)
    (e : sources spans = before ++ (l, raw) :: after) :
    ∃ p body front, (spans.map (·.2))[before.length]? = some p ∧
      Parts raw body front p.spec p.reference ∧ p.expression = Text.trim front ∧
      p.position = n + (join before l).length := by
  induction before generalizing n spans with
  | nil =>
      cases h with
      | nil => cases e
      | cons parts expression position _ =>
          cases e
          exact ⟨_, _, _, rfl, parts, expression, position⟩
  | cons piece before ih =>
      cases h with
      | nil => cases e
      | cons parts expression position rest =>
          obtain ⟨rfl, more⟩ := List.cons.inj e
          obtain ⟨p, body, front, found, parts, expression, place⟩ := ih rest more
          refine ⟨p, body, front, found, parts, expression, ?_⟩
          rw [place, position]
          simp only [join, List.length_append]
          omega

theorem describes_of_placed {spans} (h : Placed 0 spans) (tail : Text) :
    Describes (sources spans) tail ⟨spans, tail⟩ where
  literals := by simp [literals, sources, Function.comp_def]
  raws := by simp [placeholders, sources, Function.comp_def]
  parts before l raw after e := by
    obtain ⟨p, body, front, found, parts, expression, place⟩ := h.parts e
    exact ⟨p, body, front, found, parts, expression, by simpa using place⟩

theorem read_join {pieces} (h : Pieces pieces) (tail : Text) :
    ∃ t, read (join pieces tail) = .ok t ∧ Describes pieces tail t := by
  obtain ⟨spans, placed, rfl⟩ := placed_of_pieces h 0
  exact ⟨⟨spans, tail⟩, readFrom_placed placed tail, describes_of_placed placed tail⟩

theorem join_unique {pieces tail pieces' tail'} (h : Pieces pieces) (k : Pieces pieces')
    (e : join pieces tail = join pieces' tail') : pieces = pieces' ∧ tail = tail' := by
  obtain ⟨spans, placed, rfl⟩ := placed_of_pieces h 0
  obtain ⟨spans', placed', rfl⟩ := placed_of_pieces k 0
  have read := readFrom_placed placed tail
  rw [e, readFrom_placed placed' tail'] at read
  cases read
  exact ⟨rfl, rfl⟩

/-- Templates are the texts made of literal text with doubled braces and of placeholders; each is
    so in one way only, and reading gives these pieces back. -/
theorem read_grammar (text : Text) :
    ((∃ t, read text = .ok t) ↔ ∃ pieces tail, Pieces pieces ∧ text = join pieces tail) ∧
      (∀ pieces tail pieces' tail', Pieces pieces → Pieces pieces' → text = join pieces tail →
        text = join pieces' tail' → pieces = pieces' ∧ tail = tail') ∧
      ∀ pieces tail, Pieces pieces → text = join pieces tail →
        ∃ t, read text = .ok t ∧ Describes pieces tail t := by
  refine ⟨⟨?_, ?_⟩, ?_, ?_⟩
  · rintro ⟨t, h⟩
    obtain ⟨source, placed⟩ := readFrom_sound h
    exact ⟨sources t.spans, t.tail, pieces_of_placed placed, source⟩
  · rintro ⟨pieces, tail, h, rfl⟩
    obtain ⟨t, read, -⟩ := read_join h tail
    exact ⟨t, read⟩
  · intro pieces tail pieces' tail' h k e e'
    exact join_unique h k (e.symm.trans e')
  · rintro pieces tail h rfl
    exact read_join h tail

/-- Doubled braces right beside a placeholder. -/
theorem read_grammar_adjacent :
    ∃ t, read "\x7b\x7b\x7bx\x7d\x7d\x7d" = .ok t ∧
      Describes [("\x7b", "\x7bx\x7d")] "\x7d" t := by
  have reads : Reference.read "x" = .ok ⟨"x", .name "x", []⟩ := by
    change (Reference.readSteps []).map _ = _
    rw [Reference.readSteps.eq_def]
    rfl
  have starts : ∀ p : Text, p <+: ['x'] → level p = 0 := by
    intro p hp
    rcases List.prefix_cons_iff.mp hp with rfl | ⟨q, rfl, hq⟩
    · rfl
    · rw [List.prefix_nil.mp hq]
      rfl
  have balanced : Balanced ['x'] := ⟨fun p hp => Int.le_of_eq (starts p hp).symm, rfl⟩
  have uncut : Splits ['x'] ['x'] none := by
    refine ⟨fun p u e => ?_, rfl⟩
    have colon : ':' ∈ ['x'] := by
      rw [e]
      simp
    simp at colon
  have piece : IsPlaceholder "\x7bx\x7d" :=
    ⟨['x'], ['x'], none, _, rfl, by simp, balanced, uncut, by decide, reads⟩
  exact (read_grammar _).2.2 [("\x7b", "\x7bx\x7d")] "\x7d" (by simpa [Pieces] using piece) rfl

end Stencil.Template

import Stencil.Proofs.Reference.Grammar

/-! # Printed references read back

A reference is printed as its head and its steps, with the texts of plain
literals as keys and arguments and with any blanks before steps, behind points
and at both ends. Whatever the keys and arguments are, what is printed for a step
is its piece in the grammar of references: the search for a closing bracket passes
over literals, and a name ends where no word goes on.
-/

namespace Stencil

open Literal Reference Text

inductive Head.Printed : Head → Text → Prop where
  | index (n : Nat) : Printed (.index n) (natText n)
  | name {t} : IsName t → Printed (.name t) t

/-- A text of a step; blanks may stand behind a point. -/
inductive Step.Printed : Step → Text → Prop where
  | point {g name} : (∀ c ∈ g, isBlank c) → IsName name →
      Printed (.attribute name) ('.' :: (g ++ name))
  | item {key} : Plain key → Printed (.item key) ('[' :: (key.display ++ [']']))
  | call {args} : (∀ x ∈ args, Plain x) →
      Printed (.call (.tuple args)) ('(' :: (displayAll args ++ [')']))

/-- A text of steps; blanks may stand before each. -/
inductive Step.AllPrinted : List Step → Text → Prop where
  | nil : AllPrinted [] []
  | cons {g step steps t u} : (∀ c ∈ g, isBlank c) → Step.Printed step t →
      AllPrinted steps u → AllPrinted (step :: steps) (g ++ t ++ u)

/-! ## What steps start with -/

theorem Step.Printed.start {step t} (h : Step.Printed step t) :
    ∃ c v, t = c :: v ∧ c ∈ ['.', '[', '('] := by
  cases h with
  | point => exact ⟨_, _, rfl, by simp⟩
  | item => exact ⟨_, _, rfl, by simp⟩
  | call => exact ⟨_, _, rfl, by simp⟩

theorem opener_facts : ∀ c ∈ ['.', '[', '('], isBlank c = false ∧ isWord c = false ∧
    digitValue? c = none := List.all_iff_forall_prop.mp (by decide +kernel)

/-- What steps start with goes on with neither a name nor a number. -/
theorem Step.AllPrinted.stops {steps u} (h : Step.AllPrinted steps u) :
    ∀ c ∈ u.head?, isWord c = false ∧ digitValue? c = none := by
  cases h with
  | nil => simp
  | @cons gap step steps t u hg hs _ =>
      intro c hc
      cases gap with
      | nil =>
          obtain ⟨d, v, rfl, hd⟩ := hs.start
          cases hc
          exact (opener_facts c hd).2
      | cons d gap =>
          cases hc
          have blank := hg c (by simp)
          exact ⟨blank_not_word blank, blank_not_digit blank⟩

/-! ## Keys and arguments -/

theorem digit_visible {c : Char} (h : c.isDigit) : isBlank c = false := by
  cases e : isBlank c with
  | false => rfl
  | true =>
      rw [blank_not_digitChar e] at h
      cases h

theorem natText_visible (n : Nat) : ∀ c ∈ natText n, isBlank c = false :=
  fun c hc => digit_visible (natText_isDigit c hc)

theorem quote_visible {c : Char} (h : isQuote c) : isBlank c = false := by
  rcases isQuote_cases h with rfl | rfl <;> rfl

theorem trimmed_display {l} (h : Plain l) : Trimmed l.display := by
  cases h with
  | none => exact .of_visible (List.all_iff_forall_prop.mp (by decide))
  | bool b => cases b <;> exact .of_visible (List.all_iff_forall_prop.mp (by decide))
  | int i =>
      cases i with
      | ofNat n => exact .of_visible (natText_visible n)
      | negSucc n =>
          exact .of_visible (List.forall_mem_cons.mpr ⟨rfl, natText_visible (n + 1)⟩)
  | text t =>
      obtain ⟨q, body, e, between⟩ := quoted_body t
      have mark := quote_visible between.mark
      change Trimmed (quoted t)
      rw [e]
      exact .between mark mark
  | bytes bs =>
      obtain ⟨q, body, e, between⟩ := quotedBytes_body bs
      change Trimmed (quotedBytes bs)
      rw [e, ← List.cons_append]
      exact .between rfl (quote_visible between.mark)
  | list => exact .between rfl rfl
  | tuple =>
      rw [display_tuple]
      exact .between rfl rfl
  | dict => exact .between rfl rfl

/-! ## Heads and steps -/

theorem decimalValue_natText (n : Nat) : decimalValue (natText n) = n := by
  have last : ∀ c ∈ ([] : Text).head?, digitValue? c = none := by simp
  obtain ⟨ds, -, value, span⟩ := spanDigits_natText (n := n) last
  have values := spanDigits_values (natText n ++ [])
  rw [span, List.append_nil, List.takeWhile_eq_self_iff.mpr (natText_isDecimal n)] at values
  rw [decimalValue, ← values]
  exact value

theorem Head.Printed.token {head t u} (h : Head.Printed head t)
    (hu : ∀ c ∈ u.head?, isWord c = false ∧ digitValue? c = none) : head.Token t u := by
  cases h with
  | index n =>
      have ends : ∀ c ∈ u.head?, isDecimal c = false := by
        intro c hc
        rw [isDecimal, (hu c hc).2]
        rfl
      have token := Head.Token.index (natText_ne_nil n) (natText_isDecimal n) ends
      rwa [decimalValue_natText] at token
  | name h => exact .name h fun c hc => (hu c hc).1

theorem Step.Printed.piece {step t u} (h : Step.Printed step t)
    (hu : ∀ c ∈ u.head?, isWord c = false) : step.Piece t u := by
  cases h with
  | point hg hn => exact .point hg hn hu
  | @item key hp =>
      have read : Literal.read (trim key.display) = .ok key := by
        rw [(trimmed_display hp).trim, hp.denotes.read]
      exact .bracket rfl (sealed_display hp).matched (.item read)
  | @call args hp =>
      have items : Sealed (displayAll args) := by
        rw [displayAll_eq]
        exact .commas (List.forall_mem_map.mpr fun x hx => sealed_display (hp x hx))
      cases args with
      | nil => exact .bracket rfl .nil (.noArguments (List.forall_mem_nil _))
      | cons x xs =>
          have denotes := (DenotesItems.displayAll fun x hx => (hp x hx).denotes).comma.tuple
            (.inl rfl)
          rw [List.append_assoc] at denotes
          exact .bracket rfl items.matched (.arguments denotes.read)

theorem Step.AllPrinted.pieces {steps u} (h : Step.AllPrinted steps u) :
    ∃ pieces, joined pieces = u ∧ Step.Pieces steps pieces := by
  induction h with
  | nil => exact ⟨[], rfl, .nil⟩
  | @cons gap step steps t u hg hs rest ih =>
      obtain ⟨pieces, rfl, made⟩ := ih
      have piece := hs.piece fun c hc => (rest.stops c hc).1
      exact ⟨(gap, t) :: pieces, by rw [joined_cons, List.append_assoc], .cons hg piece made⟩

theorem readHead?_printed {head t u} (h : Head.Printed head t)
    (hu : ∀ c ∈ u.head?, isWord c = false ∧ digitValue? c = none) :
    readHead? (t ++ u) = some (head, u) := readHead?_iff.mpr ⟨t, rfl, h.token hu⟩

theorem readSteps_printed {steps u} (h : Step.AllPrinted steps u) : readSteps u = .ok steps := by
  obtain ⟨pieces, rfl, made⟩ := h.pieces
  exact made.read

/-! ## References -/

theorem Head.Printed.visible {head t} (h : Head.Printed head t) :
    t ≠ [] ∧ ∀ c ∈ t, isBlank c = false := by
  cases h with
  | index n => exact ⟨natText_ne_nil n, natText_visible n⟩
  | name h =>
      refine ⟨?_, h.visible⟩
      obtain ⟨c, v, rfl, -⟩ := h
      exact List.cons_ne_nil c v

theorem Step.Printed.last {step t} (h : Step.Printed step t) :
    ∀ c ∈ t.getLast?, isBlank c = false := by
  cases h with
  | @point gap name _ hn =>
      intro c hc
      obtain ⟨d, v, rfl, -⟩ := id hn
      rw [← List.cons_append, List.getLast?_append_of_ne_nil _ (List.cons_ne_nil d v)] at hc
      exact hn.visible c (List.mem_of_getLast? hc)
  | item => exact (Trimmed.between rfl rfl).last
  | call => exact (Trimmed.between rfl rfl).last

theorem Step.AllPrinted.last {steps u} (h : Step.AllPrinted steps u) :
    ∀ c ∈ u.getLast?, isBlank c = false := by
  induction h with
  | nil => simp
  | cons _ hs _ ih =>
      obtain ⟨c, v, rfl, -⟩ := hs.start
      rw [List.append_assoc, List.getLast?_append_of_ne_nil _ (by simp)]
      exact last_append hs.last ih

/-- Printing a reference, with any blanks that may stand in it, is undone by reading it. -/
theorem read_printed {before after t u : Text} {head : Head} {steps : List Step}
    (hb : ∀ c ∈ before, isBlank c) (ha : ∀ c ∈ after, isBlank c) (hh : Head.Printed head t)
    (hs : Step.AllPrinted steps u) :
    Reference.read (before ++ (t ++ u) ++ after) = .ok ⟨t ++ u, head, steps⟩ := by
  obtain ⟨ne, visible⟩ := hh.visible
  have source := trim_padded hb ha ((Trimmed.of_visible visible).append ne hs.last)
  rw [Reference.read]
  simp only [source, readHead?_printed hh hs.stops, readSteps_printed hs]
  rfl

/-- A key with quotes and brackets in it, a name behind a spaced point, and one argument. -/
theorem read_printed_brackets :
    let key : Literal := .scalar (.text "])'\"(")
    let argument : Literal := .tuple [.scalar (.int (-1))]
    let u : Text := " ['])\\'\"('] . x((-1,))"
    Reference.read ("  " ++ ("rows" ++ u) ++ "\n") =
      .ok ⟨"rows" ++ u, .name "rows", [.item key, .attribute "x", .call (.tuple [argument])]⟩ := by
  intro key argument u
  have space : ∀ c ∈ (" " : Text), isBlank c := by simp [isBlank]
  have start : ∀ c ∈ ("  " : Text), isBlank c := List.all_eq_true.mp (by decide)
  have letters : ∀ c ∈ ("ows" : Text), isWord c := List.all_eq_true.mp (by decide)
  have head : Head.Printed (.name "rows") "rows" := .name ⟨'r', "ows", rfl, rfl, letters⟩
  have plain : ∀ x ∈ [argument], Plain x := by
    simpa using Plain.tuple (by simpa using Plain.int (-1))
  have call : Step.AllPrinted [.call (.tuple [argument])] "((-1,))" :=
    .cons (g := []) (u := []) (by simp) (.call plain) .nil
  have name : Step.AllPrinted [.attribute "x", .call (.tuple [argument])] " . x((-1,))" :=
    .cons space (.point space ⟨'x', [], rfl, rfl, by simp⟩) call
  have steps : Step.AllPrinted [.item key, .attribute "x", .call (.tuple [argument])] u :=
    .cons space (.item (.text _)) name
  exact read_printed start (List.all_eq_true.mp (by decide)) head steps

end Stencil

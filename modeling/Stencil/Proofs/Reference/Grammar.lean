import Stencil.Proofs.Literal.Vacant
import Stencil.Proofs.Reference.Matching
import Stencil.Reference.Parse

/-! # The grammar of references

A text is read as a reference when, without its outer blanks, it is a head and
then pieces, one a step, with nothing but blanks between them. A head and a name
go on as far as they can and a bracket up to the one that matches it, so there
is one way at most to divide a text, and no character of it is left over.
-/

namespace Stencil

open Literal Reference Text

/-! ## Heads, pieces and divisions -/

/-- An ASCII letter or the underscore, and any characters of words behind it. -/
def IsName (t : Text) : Prop := ∃ c u, t = c :: u ∧ isNameStart c ∧ ∀ d ∈ u, isWord d

/-- The number that decimal digits of any script stand for. -/
def decimalValue (t : Text) : Nat := digitsValue 10 (t.filterMap digitValue?)

/-- The text of a head that the text behind does not go on with. -/
inductive Head.Token : Head → Text → Text → Prop where
  | index {t rest} : t ≠ [] → (∀ c ∈ t, isDecimal c) → (∀ c ∈ rest.head?, isDecimal c = false) →
      Token (.index (decimalValue t)) t rest
  | name {t rest} : IsName t → (∀ c ∈ rest.head?, isWord c = false) → Token (.name t) t rest

/-- What stands in brackets makes a step. -/
inductive Step.Inside : Char → Text → Step → Prop where
  | item {inner key} : Literal.read (trim inner) = .ok key → Inside '[' inner (.item key)
  | noArguments {inner} : (∀ c ∈ inner, Stencil.isBlank c) →
      Inside '(' inner (.call (.tuple []))
  | arguments {inner args} : Literal.read ('(' :: (inner ++ [',', ')'])) = .ok args →
      Inside '(' inner (.call args)

/-- The text of a step that the text behind does not go on with. -/
inductive Step.Piece : Step → Text → Text → Prop where
  | point {g name rest} : (∀ c ∈ g, Stencil.isBlank c) → IsName name →
      (∀ c ∈ rest.head?, isWord c = false) → Piece (.attribute name) ('.' :: (g ++ name)) rest
  | bracket {o c inner step rest} : closer? o = some c → Matched inner →
      Step.Inside o inner step → Piece step (o :: (inner ++ [c])) rest

/-- Pieces in a row, each behind its gap. -/
def joined (pieces : List (Text × Text)) : Text := pieces.flatMap fun p => p.1 ++ p.2

/-- Gaps of blanks and pieces of steps. -/
inductive Step.Pieces : List Step → List (Text × Text) → Prop where
  | nil : Pieces [] []
  | cons {g piece step steps pieces} : (∀ c ∈ g, Stencil.isBlank c) →
      Step.Piece step piece (joined pieces) → Pieces steps pieces →
      Pieces (step :: steps) ((g, piece) :: pieces)

/-- A text cut into a head and pieces. -/
structure Division where
  head : Text
  pieces : List (Text × Text)

def Division.text (d : Division) : Text := d.head ++ joined d.pieces

/-- What the parts of a division stand for. -/
structure Division.Yields (d : Division) (head : Head) (steps : List Step) : Prop where
  head : head.Token d.head (joined d.pieces)
  steps : Step.Pieces steps d.pieces

theorem joined_cons (g piece : Text) (pieces : List (Text × Text)) :
    joined ((g, piece) :: pieces) = g ++ (piece ++ joined pieces) := by
  simp [joined]

/-! ## Names -/

theorem word_visible {c} (h : isWord c) : isBlank c = false := by
  cases e : isBlank c with
  | false => rfl
  | true =>
      rw [blank_not_word e] at h
      cases h

theorem nameStart_word {c} (h : isNameStart c) : isWord c :=
  of_ascii (P := fun c => isNameStart c → isWord c) (by decide +kernel) (nameStart_ascii h) h

theorem IsName.word {t} (h : IsName t) : ∀ c ∈ t, isWord c := by
  obtain ⟨c, u, rfl, start, rest⟩ := h
  exact List.forall_mem_cons.mpr ⟨nameStart_word start, rest⟩

theorem IsName.visible {t} (h : IsName t) : ∀ c ∈ t, isBlank c = false :=
  fun c hc => word_visible (h.word c hc)

namespace Reference

theorem readName?_name {t rest : Text} (h : IsName t) (hr : ∀ c ∈ rest.head?, isWord c = false) :
    readName? (t ++ rest) = some (t, rest) := by
  obtain ⟨c, u, rfl, start, word⟩ := h
  obtain ⟨taken, left⟩ := takeWhile_word word hr
  rw [List.cons_append, readName?, if_pos start, taken, left]

theorem readName?_iff {t name rest : Text} : readName? t = some (name, rest) ↔
    t = name ++ rest ∧ IsName name ∧ ∀ c ∈ rest.head?, isWord c = false := by
  constructor
  · intro h
    cases t with
    | nil => cases h
    | cons c t =>
        simp only [readName?] at h
        split at h
        · rename_i start
          cases h
          refine ⟨?_, ⟨c, _, rfl, start, fun d hd => List.mem_takeWhile_imp hd⟩, dropWhile_head t⟩
          rw [List.cons_append, List.takeWhile_append_dropWhile]
        · cases h
  · rintro ⟨rfl, named, ends⟩
    exact readName?_name named ends

/-! ## Heads -/

theorem spanDigits_values (t : Text) :
    (spanDigits t).1 = (t.takeWhile isDecimal).filterMap digitValue? := by
  fun_induction spanDigits t with
  | case1 => rfl
  | case2 c t d h ds rest e ih => simpa [isDecimal, h, e] using ih
  | case3 c t h => simp [isDecimal, h]

theorem filterMap_digits_isEmpty {t : Text} (h : ∀ c ∈ t, isDecimal c) :
    (t.filterMap digitValue?).isEmpty = t.isEmpty := by
  cases t with
  | nil => rfl
  | cons c t =>
      obtain ⟨d, hd⟩ := Option.isSome_iff_exists.mp (h c (by simp))
      simp [hd]

theorem readHead?_iff {t rest : Text} {head : Head} : readHead? t = some (head, rest) ↔
    ∃ w, t = w ++ rest ∧ head.Token w rest := by
  have decimals : ∀ c ∈ t.takeWhile isDecimal, isDecimal c := fun c hc =>
    List.mem_takeWhile_imp hc
  simp only [readHead?, spanDigits_values, spanDigits_rest, filterMap_digits_isEmpty decimals]
  constructor
  · intro h
    split at h
    · obtain ⟨⟨name, behind⟩, named, same⟩ := Option.map_eq_some_iff.mp h
      cases same
      obtain ⟨split, named, ends⟩ := readName?_iff.mp named
      exact ⟨name, split, .name named ends⟩
    · rename_i some
      cases h
      refine ⟨t.takeWhile isDecimal, List.takeWhile_append_dropWhile.symm, .index ?_ decimals
        (dropWhile_head t)⟩
      intro none
      rw [none] at some
      exact some rfl
  · rintro ⟨w, rfl, token⟩
    cases token with
    | index some digits ends =>
        obtain ⟨taken, left⟩ := takeWhile_word digits ends
        rw [taken, left, List.isEmpty_eq_false_iff.mpr some]
        rfl
    | name named ends =>
        obtain ⟨c, v, rfl, start, -⟩ := id named
        have digit : isDecimal c = false := by simp [isDecimal, nameStart_not_digit start]
        rw [List.cons_append, List.takeWhile_cons_of_neg (by simp [digit]), ← List.cons_append,
          readName?_name named ends]
        rfl

/-! ## Steps -/

theorem readLiteral_iff {source : Text} {l : Literal} :
    readLiteral source = .ok l ↔ Literal.read (trim source) = .ok l := by
  rw [readLiteral]
  split
  · rename_i v read
    rw [read, Except.ok.injEq, Except.ok.injEq]
  · rename_i read
    simp [read]
  · rename_i read
    simp [read]

theorem map_ok_iff {f : α → β} {x : Except ε α} {b : β} :
    x.map f = .ok b ↔ ∃ a, x = .ok a ∧ f a = b := by
  cases x with
  | error e => simp [Except.map]
  | ok a => simp [Except.map]

theorem bracketStep_iff {o c : Char} (opens : closer? o = some c) {inner : Text} {step : Step} :
    bracketStep o inner = .ok step ↔ Step.Inside o inner step := by
  rcases closer?_cases opens with ⟨rfl, -⟩ | ⟨rfl, -⟩
  · rw [bracketStep, if_pos rfl, map_ok_iff]
    constructor
    · rintro ⟨key, read, rfl⟩
      exact .item (readLiteral_iff.mp read)
    · intro inside
      cases inside with
      | item read => exact ⟨_, readLiteral_iff.mpr read, rfl⟩
  · have source : ∀ args, readLiteral ('(' :: inner ++ [',', ')']) = .ok args ↔
        Literal.read ('(' :: (inner ++ [',', ')'])) = .ok args := by
      intro args
      have ends : Trimmed ('(' :: (inner ++ [','] ++ [')'])) := .between rfl rfl
      rw [List.append_assoc] at ends
      rw [readLiteral_iff]
      exact Iff.of_eq (congrArg (Literal.read · = .ok args) ends.trim)
    rw [bracketStep, if_neg (by decide)]
    cases blank : Text.isBlank inner with
    | true =>
        have blanks : ∀ c ∈ inner, Stencil.isBlank c := List.all_eq_true.mp blank
        rw [if_pos rfl, Except.ok.injEq]
        constructor
        · rintro rfl
          exact .noArguments blanks
        · intro inside
          cases inside with
          | noArguments => rfl
          | arguments read => exact absurd read (read_vacant blanks _)
    | false =>
        rw [if_neg Bool.false_ne_true, map_ok_iff]
        constructor
        · rintro ⟨args, read, rfl⟩
          exact .arguments ((source args).mp read)
        · intro inside
          cases inside with
          | noArguments blanks =>
              rw [Text.isBlank, List.all_eq_true.mpr blanks] at blank
              cases blank
          | arguments read => exact ⟨_, (source _).mpr read, rfl⟩

theorem readStep_iff {c : Char} {t rest : Text} {step : Step} :
    readStep c t = .ok (step, rest) ↔ ∃ piece, c :: t = piece ++ rest ∧ step.Piece piece rest := by
  constructor
  · intro h
    unfold readStep at h
    split at h
    · rename_i point
      subst point
      split at h
      · rename_i name behind named
        cases h
        obtain ⟨g, gap, blanks⟩ := trimStart_split t
        obtain ⟨split, named, ends⟩ := readName?_iff.mp named
        refine ⟨'.' :: (g ++ name), ?_, .point blanks named ends⟩
        rw [List.cons_append, List.append_assoc, ← split, ← gap]
      · cases h
    · split at h
      · split at h
        · rename_i i found
          obtain ⟨d, inner, behind, opens, rfl, rfl, matched⟩ := findCloser_iff.mp found
          obtain ⟨made, inside, same⟩ := map_ok_iff.mp h
          rw [List.take_left] at inside
          rw [List.drop_length_add_append, List.drop_one, List.tail_cons] at same
          cases same
          refine ⟨c :: (inner ++ [d]), by simp, ?_⟩
          exact .bracket opens matched ((bracketStep_iff opens).mp inside)
        · cases h
      · cases h
  · rintro ⟨piece, split, h⟩
    cases h with
    | @point g name _ blanks named ends =>
        rw [List.cons_append, List.cons.injEq] at split
        obtain ⟨rfl, rfl⟩ := split
        obtain ⟨d, v, rfl, start, -⟩ := id named
        have visible : trimStart (d :: v ++ rest) = d :: v ++ rest :=
          trimStart_self (by simpa using word_visible (nameStart_word start))
        rw [readStep, if_pos rfl, List.append_assoc, trimStart_blanks blanks, visible,
          readName?_name named ends]
    | @bracket _ d inner _ _ opens matched inside =>
        rw [List.cons_append, List.cons.injEq] at split
        obtain ⟨rfl, rfl⟩ := split
        have point : c ≠ '.' := by
          rintro rfl
          cases opens
        rw [List.append_assoc, List.singleton_append, readStep, if_neg point, opens,
          Option.isSome_some, if_pos rfl, findCloser_matched opens matched]
        simp [(bracketStep_iff opens).mpr inside, Except.map]

theorem readSteps_step {t u rest : Text} {c step} (ht : trimStart t = c :: u)
    (hs : readStep c u = .ok (step, rest)) :
    readSteps t = (readSteps rest).map (step :: ·) := by
  rw [readSteps.eq_def]
  split
  · rename_i h
    cases ht.symm.trans h
  · rename_i h
    cases ht.symm.trans h
    split
    · rename_i h
      cases hs.symm.trans h
    · rename_i h
      cases hs.symm.trans h
      rfl

end Reference

/-! ## Divisions -/

theorem Step.Piece.start {step : Step} {piece rest : Text} (h : step.Piece piece rest) :
    ∃ c v, piece = c :: v ∧ Stencil.isBlank c = false := by
  cases h with
  | point => exact ⟨_, _, rfl, rfl⟩
  | @bracket o _ _ _ _ opens =>
      refine ⟨o, _, rfl, ?_⟩
      rcases closer?_cases opens with ⟨rfl, -⟩ | ⟨rfl, -⟩
      · rfl
      · rfl

namespace Step.Pieces

/-- The first piece of a row and what is behind it are what reading takes and leaves. -/
theorem first {g piece rest : Text} {step : Step} (blanks : ∀ c ∈ g, Stencil.isBlank c)
    (h : step.Piece piece rest) :
    ∃ c v, trimStart (g ++ (piece ++ rest)) = c :: v ∧ c :: v = piece ++ rest ∧
      readStep c v = .ok (step, rest) := by
  obtain ⟨c, v, rfl, visible⟩ := h.start
  refine ⟨c, v ++ rest, ?_, rfl, readStep_iff.mpr ⟨c :: v, rfl, h⟩⟩
  rw [trimStart_blanks blanks]
  exact trimStart_self (by simpa using visible)

theorem read {steps : List Step} {pieces : List (Text × Text)} (h : Step.Pieces steps pieces) :
    readSteps (joined pieces) = .ok steps := by
  induction h with
  | nil =>
      rw [readSteps.eq_def]
      rfl
  | cons blanks piece _ ih =>
      obtain ⟨c, v, start, -, taken⟩ := first blanks piece
      rw [joined_cons, readSteps_step start taken, ih]
      rfl

theorem unique {steps steps' : List Step} {pieces pieces' : List (Text × Text)}
    (h : Step.Pieces steps pieces) (h' : Step.Pieces steps' pieces')
    (same : joined pieces = joined pieces') : pieces = pieces' ∧ steps = steps' := by
  induction h generalizing steps' pieces' with
  | nil =>
      cases h' with
      | nil => exact ⟨rfl, rfl⟩
      | cons _ piece _ =>
          obtain ⟨c, v, rfl, -⟩ := piece.start
          simp [joined] at same
  | @cons g piece step steps pieces blanks taken _ ih =>
      cases h' with
      | nil =>
          obtain ⟨c, v, rfl, -⟩ := taken.start
          simp [joined] at same
      | @cons g' piece' step' steps' pieces' blanks' taken' more' =>
          obtain ⟨c, v, start, split, read⟩ := first blanks taken
          obtain ⟨c', v', start', split', read'⟩ := first blanks' taken'
          rw [joined_cons, joined_cons] at same
          rw [same, start'] at start
          cases start
          obtain ⟨rfl, rest⟩ : step = step' ∧ joined pieces = joined pieces' := by
            simpa using read.symm.trans read'
          obtain ⟨rfl, rfl⟩ := ih more' rest
          obtain rfl := List.append_cancel_right (split.symm.trans split')
          obtain rfl := List.append_cancel_right same
          exact ⟨rfl, rfl⟩

end Step.Pieces

/-- Trimmed text ends with no blank, so blanks that are read behind the last step are none. -/
theorem exists_pieces {t : Text} {steps : List Step}
    (last : ∀ c ∈ t.getLast?, Stencil.isBlank c = false) (h : readSteps t = .ok steps) :
    ∃ pieces, joined pieces = t ∧ Step.Pieces steps pieces := by
  fun_induction readSteps t generalizing steps with
  | case1 t start =>
      obtain ⟨g, split, blanks⟩ := trimStart_split t
      rw [start, List.append_nil] at split
      subst split
      cases h
      cases ends : t.getLast? with
      | none =>
          rw [List.getLast?_eq_none_iff.mp ends]
          exact ⟨[], rfl, .nil⟩
      | some c =>
          have blank := blanks c (List.mem_of_getLast? ends)
          rw [last c ends] at blank
          cases blank
  | case2 => cases h
  | case3 t c u start step rest taken ih =>
      obtain ⟨g, gap, blanks⟩ := trimStart_split t
      obtain ⟨piece, split, made⟩ := readStep_iff.mp taken
      rw [start, split] at gap
      obtain ⟨more, read, rfl⟩ := map_ok_iff.mp h
      have behind : ∀ c ∈ rest.getLast?, Stencil.isBlank c = false := by
        intro c hc
        apply last c
        rw [gap, List.getLast?_append, List.getLast?_append, hc]
        rfl
      obtain ⟨pieces, rfl, rest⟩ := ih behind read
      exact ⟨(g, piece) :: pieces, by rw [joined_cons, gap], .cons blanks made rest⟩

theorem Division.Yields.read {d : Division} {head : Head} {steps : List Step}
    (h : d.Yields head steps) : readHead? d.text = some (head, joined d.pieces) ∧
      readSteps (joined d.pieces) = .ok steps :=
  ⟨readHead?_iff.mpr ⟨d.head, rfl, h.head⟩, h.steps.read⟩

theorem Division.Yields.unique {d d' : Division} {head head' : Head} {steps steps' : List Step}
    (h : d.Yields head steps) (h' : d'.Yields head' steps') (same : d.text = d'.text) :
    d = d' ∧ head = head' ∧ steps = steps' := by
  obtain ⟨first, pieces⟩ := d
  obtain ⟨first', pieces'⟩ := d'
  have read := h.read.1
  rw [same, h'.read.1] at read
  obtain ⟨rfl, rest⟩ : head' = head ∧ joined pieces' = joined pieces := by simpa using read
  obtain ⟨rfl, rfl⟩ := h.steps.unique h'.steps rest.symm
  obtain rfl := List.append_cancel_right same
  exact ⟨rfl, rfl, rfl⟩

theorem exists_division {t : Text} {r : Reference} (h : Reference.read t = .ok r) :
    r.text = trim t ∧ ∃ d : Division, d.text = trim t ∧ d.Yields r.head r.steps := by
  simp only [Reference.read] at h
  split at h
  · cases h
  · rename_i head rest started
    obtain ⟨steps, read, rfl⟩ := map_ok_iff.mp h
    obtain ⟨w, split, token⟩ := readHead?_iff.mp started
    have last : ∀ c ∈ rest.getLast?, Stencil.isBlank c = false := by
      intro c hc
      apply (trimmed_trim t).last c
      rw [split, List.getLast?_append, hc]
      rfl
    obtain ⟨pieces, rfl, made⟩ := exists_pieces last read
    exact ⟨rfl, ⟨w, pieces⟩, split.symm, token, made⟩

/-- A text is read just when it is, without its outer blanks, divided into a head and one piece a
    step, and it is divided in one way at most. -/
theorem read_divided (t : Text) :
    (∀ r, Reference.read t = .ok r ↔ r.text = trim t ∧
      ∃ d : Division, d.text = trim t ∧ d.Yields r.head r.steps) ∧
    ∀ d d' : Division, ∀ head head' steps steps', d.text = trim t → d.Yields head steps →
      d'.text = trim t → d'.Yields head' steps' → d = d' ∧ head = head' ∧ steps = steps' := by
  refine ⟨fun r => ⟨exists_division, fun ⟨text, d, whole, yields⟩ => ?_⟩, ?_⟩
  · obtain ⟨headRead, stepsRead⟩ := yields.read
    rw [whole] at headRead
    obtain ⟨source, head, steps⟩ := r
    obtain rfl : source = trim t := text
    simp only [Reference.read, headRead, stepsRead]
    rfl
  · intro d d' head head' steps steps' whole yields whole' yields'
    exact yields.unique yields' (whole.trans whole'.symm)

/-- Quoted brackets in a key, a gap before a point and behind it, and a call of nothing. -/
theorem read_divided_gaps :
    let t : Text := " x[ '](' ] . f( )
"
    let steps : List Step :=
      [.item (.scalar (.text "](")), .attribute "f", .call (.tuple [])]
    let d : Division := ⟨"x", [([], "[ '](' ]"), (" ", ". f"), ([], "( )")]⟩
    Reference.read t = .ok ⟨trim t, .name "x", steps⟩ ∧
      ∀ d', d'.text = trim t → Division.Yields d' (.name "x") steps → d' = d := by
  intro t steps d
  have whole : d.text = trim t := by decide
  have blank : ∀ c ∈ (" " : Text), Stencil.isBlank c := List.all_eq_true.mp (by decide)
  have key : Literal.read (trim " '](' ") = .ok (.scalar (.text "](")) :=
    (denotes_text "](").read
  have space : Matched " " := .plain rfl (by decide) .nil
  have inside : Unclosing '\'' "](" :=
    .plain (by decide) (by decide) (.plain (by decide) (by decide) .nil)
  have quotes : Matched " '](' " := .plain rfl (by decide) (.quoted rfl inside space)
  have item : Step.Piece (.item (.scalar (.text "]("))) "[ '](' ]" " . f( )" :=
    .bracket rfl quotes (.item key)
  have ends : ∀ rest : Text, rest.head? = some '[' ∨ rest.head? = some '(' →
      ∀ c ∈ rest.head?, isWord c = false := by
    intro rest start c hc
    rcases start with e | e
    · rw [e] at hc
      cases hc
      rfl
    · rw [e] at hc
      cases hc
      rfl
  have point : Step.Piece (.attribute "f") ". f" "( )" :=
    .point blank ⟨'f', [], rfl, rfl, by simp⟩ (ends _ (.inr rfl))
  have call : Step.Piece (.call (.tuple [])) "( )" [] := .bracket rfl space (.noArguments blank)
  have yields : d.Yields (.name "x") steps :=
    { head := .name ⟨'x', [], rfl, rfl, by simp⟩ (ends _ (.inl rfl))
      steps := .cons (by simp) item (.cons blank point (.cons (by simp) call .nil)) }
  obtain ⟨reads, unique⟩ := read_divided t
  refine ⟨(reads _).mpr ⟨rfl, d, whole, yields⟩, fun d' whole' yields' => ?_⟩
  exact (unique d' d _ _ _ _ whole' yields' whole yields).1

end Stencil

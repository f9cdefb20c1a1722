import Stencil.Proofs.Literal.Spelling

/-! # The words of literals

Each way to show a scalar without parts that may be written down is one word: the
names of constants, decimal integers without sign, quoted text and quoted bytes.
Where a word may end, nothing follows that a name or a number could go on with.
-/

namespace Stencil.Literal

open Layout Numeral

/-! ## Where words end -/

/-- A character that no name and no number goes on with, and that opens no quotes. -/
structure Ends (c : Char) : Prop where
  name : isNameChar c = false
  quote : isQuote c = false
  digit : c.isDigit = false
  base : baseOf? c = none
  point : c ≠ '.'
  underscore : c ≠ '_'
  exponent : c ≠ 'e' ∧ c ≠ 'E'
  unit : c ≠ 'j' ∧ c ≠ 'J'

theorem EndsWord.ends {t} (h : EndsWord t) {c} (hc : c ∈ t.head?) : Ends c := by
  have all : ∀ c ∈ ['(', ')', '[', ']', '{', '}', ',', ':', '+', '-'] ++ [' ', '\n'],
      isNameChar c = false ∧ isQuote c = false ∧ c.isDigit = false ∧ baseOf? c = none ∧
        c ≠ '.' ∧ c ≠ '_' ∧ (c ≠ 'e' ∧ c ≠ 'E') ∧ c ≠ 'j' ∧ c ≠ 'J' :=
    List.all_iff_forall_prop.mp (by decide)
  have known : c ∈ ['(', ')', '[', ']', '{', '}', ',', ':', '+', '-'] ++ [' ', '\n'] := by
    rcases h c hc with mark | spacer
    · exact List.mem_append_left _ (isMark_cases mark)
    · exact List.mem_append_right _ (by simpa using isSpacer_cases spacer)
  obtain ⟨name, quote, digit, base, point, underscore, exponent, unit⟩ := all c known
  exact ⟨name, quote, digit, base, point, underscore, exponent, unit⟩

theorem EndsWord.head_not_name {t} (h : EndsWord t) :
    (t.head?.map isNameChar).getD false = false := by
  cases t with
  | nil => rfl
  | cons c t => exact (h.ends rfl).name

theorem EndsWord.head_not_quote {t} (h : EndsWord t) {q} (hq : isQuote q) : t.head? ≠ some q := by
  intro e
  have quote := (h.ends e).quote
  rw [hq] at quote
  cases quote

/-- Words are read as tokens that are no brackets, so they do not look like containers. -/
theorem Lexeme.head {w token c t} (h : Lexeme w token) (e : w = c :: t) :
    c ≠ '[' ∧ c ≠ '\x7b' := by
  have read := h.read [] (by simp [EndsWord])
  have marked : ∀ d, d ∈ ['[', '\x7b'] → c ≠ d := by
    rintro d hd rfl
    have opens : openBrackets 0 (.mark c) = 1 := if_pos (by
      simp only [List.mem_cons, List.not_mem_nil, or_false] at hd ⊢
      tauto)
    have mark : readToken (c :: t) = some (.mark c, t) := by
      simp only [List.mem_cons, List.not_mem_nil, or_false] at hd
      rcases hd with rfl | rfl <;> rfl
    rw [List.append_nil, e, mark, Option.some.injEq, Prod.mk.injEq] at read
    rw [read.1, h.level 0] at opens
    cases opens
  exact ⟨marked _ (by simp), marked _ (by simp)⟩

/-! ## Solid text -/

theorem solid_plain {w : Text}
    (h : ∀ c ∈ w, isSpacer c = false ∧ isSeam c = false ∧ isQuote c = false) :
    Solid .outside w := by
  induction w with
  | nil => rfl
  | cons c w ih =>
      obtain ⟨spacer, seam, quote⟩ := h c (by simp)
      refine ⟨fun _ => ⟨spacer, seam⟩, ?_⟩
      rw [after_outside quote]
      exact ih fun d hd => h d (by simp [hd])

theorem solid_inside {q escaped c t} (h : Solid (Place.after (.inside q escaped) c) t) :
    Solid (.inside q escaped) (c :: t) := by
  refine ⟨fun e => ?_, h⟩
  cases e

theorem Inner.solid {q t} (h : Inner q t) (hq : q ≠ '\\') : Solid (.inside q false) (t ++ [q]) := by
  induction h with
  | nil => exact solid_inside (by simp [Place.after, hq, Solid])
  | plain h1 h2 _ _ ih => exact solid_inside (by simpa [Place.after, h1, h2] using ih)
  | escape _ ih => exact solid_inside (solid_inside (by simpa [Place.after] using ih))

/-- How a quote lies to the other characters of spelled text. -/
structure QuoteMark (q : Char) : Prop where
  starts : startsWord q
  printable : isPrintable q
  mark : isMark q = false
  spacer : isSpacer q = false
  seam : isSeam q = false
  name : isNameChar q = false
  backslash : q ≠ '\\'

theorem Body.quoteMark {wide q body text} (h : Body wide q body text) : QuoteMark q := by
  rcases isQuote_cases h.mark with rfl | rfl
  · exact ⟨rfl, rfl, rfl, rfl, rfl, rfl, by decide⟩
  · exact ⟨rfl, rfl, rfl, rfl, rfl, rfl, by decide⟩

theorem Body.solid {wide q body text} (h : Body wide q body text) :
    Solid .outside (q :: (body ++ [q])) := by
  have quote := h.quoteMark
  refine ⟨fun _ => ⟨quote.spacer, quote.seam⟩, ?_⟩
  rw [show Place.outside.after q = .inside q false by simp [Place.after, h.mark]]
  exact h.inner.solid quote.backslash

theorem Body.printable {wide q body text} (h : Body wide q body text) :
    ∀ c ∈ q :: (body ++ [q]), isPrintable c := by
  have mark := h.quoteMark.printable
  intro c hc
  simp only [List.mem_cons, List.mem_append, List.not_mem_nil, or_false] at hc
  rcases hc with rfl | hc | rfl
  · exact mark
  · exact (h.shown c hc).1
  · exact mark

/-! ## Names -/

theorem takeWhile_word {p : Char → Bool} {w r : Text} (hw : ∀ c ∈ w, p c)
    (hr : ∀ c ∈ r.head?, p c = false) :
    (w ++ r).takeWhile p = w ∧ (w ++ r).dropWhile p = r := by
  rw [List.takeWhile_append_of_pos hw, List.dropWhile_append_of_pos hw]
  cases r with
  | nil => simp
  | cons c r =>
      have stop := hr c rfl
      simp [stop]

/-- What letters and digits have in common: a word may start with them, and they are part of
    nothing but words. -/
structure Alphanum (c : Char) : Prop where
  starts : startsWord c
  printable : isPrintable c
  mark : isMark c = false
  quote : isQuote c = false
  spacer : isSpacer c = false
  seam : isSeam c = false
  point : c ≠ '.'

theorem alphanum {c : Char} (h : c.isAlphanum) : Alphanum c := by
  have all : c.isAlphanum → startsWord c ∧ isPrintable c ∧ isMark c = false ∧
      isQuote c = false ∧ isSpacer c = false ∧ isSeam c = false ∧ c ≠ '.' :=
    of_ascii
      (P := fun c => c.isAlphanum → startsWord c ∧ isPrintable c ∧ isMark c = false ∧
        isQuote c = false ∧ isSpacer c = false ∧ isSeam c = false ∧ c ≠ '.')
      (by decide +kernel) (alphanum_ascii h)
  obtain ⟨starts, printable, mark, quote, spacer, seam, point⟩ := all h
  exact ⟨starts, printable, mark, quote, spacer, seam, point⟩

theorem alphanum_solid {w : Text} (h : ∀ c ∈ w, c.isAlphanum) : Solid .outside w :=
  solid_plain fun c hc =>
    have plain := alphanum (h c hc)
    ⟨plain.spacer, plain.seam, plain.quote⟩

theorem alpha_alphanum {c : Char} (h : c.isAlpha) : c.isAlphanum := by
  simp [Char.isAlphanum, h]

theorem digit_alphanum {c : Char} (h : c.isDigit) : c.isAlphanum := by
  simp [Char.isAlphanum, h]

theorem alpha_not_digit {c : Char} (h : c.isAlpha) : c.isDigit = false :=
  of_ascii (P := fun c => c.isAlpha → c.isDigit = false) (by decide +kernel)
    (alphanum_ascii (alpha_alphanum h)) h

theorem lexeme_name {w : Text} (hw : w ≠ []) (letters : ∀ c ∈ w, c.isAlpha) :
    Lexeme w (.name w) where
  start := by
    obtain ⟨c, t, rfl⟩ := List.exists_cons_of_ne_nil hw
    exact ⟨c, t, rfl, (alphanum (alpha_alphanum (letters c (by simp)))).starts⟩
  solid := alphanum_solid fun c hc => alpha_alphanum (letters c hc)
  printable c hc := (alphanum (alpha_alphanum (letters c hc))).printable
  level _ := rfl
  read rest hr := by
    have name : ∀ c ∈ w, isNameChar c := by
      intro c hc
      simp [isNameChar, alpha_alphanum (letters c hc)]
    obtain ⟨taken, left⟩ := takeWhile_word name fun c hc => (hr.ends hc).name
    obtain ⟨c, t, rfl⟩ := List.exists_cons_of_ne_nil hw
    have letter := letters c (by simp)
    have plain := alphanum (alpha_alphanum letter)
    have known : (c :: t).all fun d => d.toNat < 128 || isWord d := by
      simp only [List.all_eq_true, Bool.or_eq_true, decide_eq_true_eq]
      intro d hd
      exact .inl (alphanum_ascii (alpha_alphanum (letters d hd)))
    rw [List.cons_append] at taken left ⊢
    rw [readToken]
    simp only [plain.mark, plain.quote, alpha_not_digit letter, plain.point, name c (by simp),
      taken, left, known, Bool.false_eq_true, if_false, if_true, Bool.or_self,
      beq_eq_false_iff_ne.mpr, Bool.false_and, ne_eq, not_false_eq_true]
    cases rest with
    | nil => rfl
    | cons e rest => simp [readName, (hr.ends rfl).quote]

theorem lexeme_none : Lexeme "None" (.name "None") :=
  lexeme_name (by decide) (List.all_eq_true.mp (by decide))

theorem lexeme_bool (b : Bool) :
    Lexeme (if b then "True" else "False") (.name (if b then "True" else "False")) := by
  cases b with
  | false => exact lexeme_name (by decide) (List.all_eq_true.mp (by decide))
  | true => exact lexeme_name (by decide) (List.all_eq_true.mp (by decide))

/-! ## Numbers -/

theorem natText_alphanum (n : Nat) : ∀ c ∈ natText n, Alphanum c :=
  fun c hc => alphanum (digit_alphanum (natText_isDigit c hc))

theorem spanGrouped_digits {w rest : Text} (hw : w ≠ []) (digits : ∀ c ∈ w, c.isDigit)
    (hr : EndsWord rest) : spanGrouped Char.isDigit (w ++ rest) = some (w, rest) := by
  induction w with
  | nil => exact absurd rfl hw
  | cons c w ih =>
      have hc := digits c (by simp)
      cases w with
      | nil =>
          cases rest with
          | nil => simp [spanGrouped, hc]
          | cons e rest =>
              have ends := hr.ends (c := e) rfl
              simp [spanGrouped, hc, ends.digit, ends.underscore]
      | cons d w =>
          have hd := digits d (by simp)
          have notGroup : d ≠ '_' := by
            rintro rfl
            cases hd
          have more := ih (by simp) fun e he => digits e (by simp [he])
          rw [List.cons_append] at more
          simp [spanGrouped, hc, hd, more]

theorem EndsWord.readFraction {t} (h : EndsWord t) : readFraction t = some (none, t) := by
  cases t with
  | nil => rfl
  | cons c t =>
      have point := (h.ends (c := c) rfl).point
      rw [Numeral.readFraction.eq_def]
      split <;> simp_all

theorem EndsWord.readExponentPart {t} (h : EndsWord t) :
    readExponentPart t = some (none, t) := by
  cases t with
  | nil => rfl
  | cons c t =>
      obtain ⟨lower, upper⟩ := (h.ends (c := c) rfl).exponent
      simp [Numeral.readExponentPart, lower, upper]

theorem readWhole_natText {n : Nat} {rest : Text} (hr : EndsWord rest) :
    readWhole (natText n ++ rest) = some (natText n, rest) := by
  obtain ⟨c, t, ht⟩ := List.exists_cons_of_ne_nil (natText_ne_nil n)
  have point : c ≠ '.' := (natText_alphanum n c (by simp [ht])).point
  rw [readWhole]
  · exact spanGrouped_digits (natText_ne_nil n) natText_isDigit hr
  · intro u e
    rw [ht] at e
    exact point (List.cons.inj e).1

theorem readDecimal_natText {n : Nat} {rest : Text} (hr : EndsWord rest) :
    readDecimal (natText n ++ rest) = some (.int n, rest) := by
  have zero : ((natText n).head? == some '0' && (natText n).any (· != '0')) = false := by
    cases e : (natText n).head? == some '0' with
    | false => rfl
    | true =>
        rw [natText_head_zero (beq_iff_eq.mp e)]
        rfl
  have unit : ∀ u : Text, rest ≠ 'j' :: u ∧ rest ≠ 'J' :: u := by
    refine fun u => ⟨?_, ?_⟩
    · rintro rfl
      exact (hr.ends (c := 'j') rfl).unit.1 rfl
    · rintro rfl
      exact (hr.ends (c := 'J') rfl).unit.2 rfl
  simp only [readDecimal, readWhole_natText hr, hr.readFraction, hr.readExponentPart,
    Option.bind_eq_bind, Option.bind_some]
  split
  · rename_i u
    exact absurd rfl (unit u).1
  · rename_i u
    exact absurd rfl (unit u).2
  · simp [zero, numeralValue_natText]

theorem readNumber_natText {n : Nat} {rest : Text} (hr : EndsWord rest) :
    readNumber (natText n ++ rest) = some (.int n, rest) := by
  have decimal := readDecimal_natText (n := n) hr
  by_cases zero : n = 0
  · subst zero
    change readDecimal ('0' :: rest) = _ at decimal
    change readNumber ('0' :: rest) = _
    cases rest with
    | nil => exact decimal
    | cons c rest => simp only [readNumber, (hr.ends (c := c) rfl).base, decimal]
  · rw [readNumber]
    · exact decimal
    · intro c u e
      obtain ⟨d, t, ht⟩ := List.exists_cons_of_ne_nil (natText_ne_nil n)
      rw [ht] at e
      have head : d = '0' := (List.cons.inj e).1
      exact zero (natText_head_zero (by rw [ht, head]; rfl))

theorem readNumeral_natText {n : Nat} {rest : Text} (hr : EndsWord rest) :
    readNumeral (natText n ++ rest) = some (.int n, rest) := by
  simp only [readNumeral, readNumber_natText hr, Option.bind_eq_bind, Option.bind_some,
    hr.head_not_name, Bool.false_and, Bool.false_eq_true, if_false]

theorem lexeme_number (n : Nat) : Lexeme (natText n) (.number (.int n)) where
  start := by
    obtain ⟨c, t, ht⟩ := List.exists_cons_of_ne_nil (natText_ne_nil n)
    exact ⟨c, t, ht, (natText_alphanum n c (by simp [ht])).starts⟩
  solid := alphanum_solid fun c hc => digit_alphanum (natText_isDigit c hc)
  printable c hc := (natText_alphanum n c hc).printable
  level _ := rfl
  read rest hr := by
    have number := readNumeral_natText (n := n) hr
    obtain ⟨c, t, ht⟩ := List.exists_cons_of_ne_nil (natText_ne_nil n)
    have digit : c.isDigit := natText_isDigit (n := n) c (by simp [ht])
    have plain := natText_alphanum n c (by simp [ht])
    rw [ht, List.cons_append] at number ⊢
    simp [readToken, plain.mark, plain.quote, digit, number]

/-! ## Quoted text -/

theorem Body.readQuoted {wide q body text} (h : Body wide q body text) (letters : Text)
    {bytes : Bool} (hl : quoteLetters? letters = some (false, bytes)) {rest : Text}
    (hr : EndsWord rest) :
    readQuoted letters q (body ++ [q] ++ rest) =
      (quotedToken false bytes body).map (·, rest) := by
  rw [List.append_assoc, List.singleton_append]
  exact h.inner.readQuoted h.mark hl (hr.head_not_quote h.mark)

theorem lexeme_quoted (t : Text) : Lexeme (quoted t) (.text t) := by
  obtain ⟨q, body, e, h⟩ := quoted_body t
  have quote := h.quoteMark
  rw [e]
  refine ⟨⟨q, _, rfl, quote.starts⟩, h.solid, h.printable, fun rest hr => ?_, fun _ => rfl⟩
  have token : quotedToken false false body = some (.text t) := by
    simp [quotedToken, h.read]
  have read := h.readQuoted [] rfl hr
  rw [token] at read
  rw [List.cons_append, readToken]
  simp only [quote.mark, h.mark, Bool.false_eq_true, if_false, if_true]
  exact read

theorem lexeme_bytes (bs : List UInt8) : Lexeme (quotedBytes bs) (.bytes bs) := by
  obtain ⟨q, body, e, h⟩ := quotedBytes_body bs
  rw [e]
  refine ⟨⟨'b', _, rfl, rfl⟩, ⟨fun _ => ⟨rfl, rfl⟩, h.solid⟩, ?_, fun rest hr => ?_, fun _ => rfl⟩
  · exact List.forall_mem_cons.mpr ⟨rfl, h.printable⟩
  have ascii : (body.any fun c => decide (c.toNat ≥ 128)) = false := by
    rw [List.any_eq_false]
    intro c hc
    have := (h.shown c hc).2 rfl
    simpa using this
  have token : quotedToken false true body = some (.bytes bs) := by
    rw [quotedToken]
    simp only [ascii, Bool.not_true, Bool.and_false, Bool.false_eq_true, if_false]
    simp [h.read, Function.comp_def, byteChar_toNat]
  have read := h.readQuoted ['b'] rfl hr
  rw [token] at read
  have letter : ∀ c ∈ ['b'], isNameChar c := by simp [isNameChar]
  obtain ⟨taken, left⟩ := takeWhile_word (r := q :: (body ++ [q] ++ rest)) letter
    (by simpa using h.quoteMark.name)
  rw [List.singleton_append] at taken left
  have name : readName ['b'] (q :: (body ++ [q] ++ rest)) =
      readQuoted ['b'] q (body ++ [q] ++ rest) := by
    have bytesLetter : quoteLetters? ['b'] = some (false, true) := rfl
    simp [readName, h.mark, bytesLetter]
  rw [List.cons_append, List.cons_append, readToken, taken, left]
  change readName ['b'] (q :: (body ++ [q] ++ rest)) = _
  rw [name, read]
  rfl

end Stencil.Literal

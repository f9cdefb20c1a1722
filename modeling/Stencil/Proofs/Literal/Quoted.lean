import Stencil.Literal.Token
import Stencil.Proofs.Number.Digits
import Stencil.Proofs.Text.Characters

/-! # Quoted text reads back

A quoted text or quoted bytes, met at the start of a text, are read as one token
with the text or the bytes they were made from. Two facts carry this: what is
written between the marks never closes them, and each written character reads
back on its own, whatever is behind it.
-/

namespace Stencil.Literal

/-- Text that may stand between two marks: a mark or a backslash in it is behind a backslash, and
    there is no line feed. -/
inductive Inner (q : Char) : Text → Prop where
  | nil : Inner q []
  | plain {c t} : c ≠ '\\' → c ≠ q → c ≠ '\n' → Inner q t → Inner q (c :: t)
  | escape {c t} : Inner q t → Inner q ('\\' :: c :: t)

/-- A way to write one character between marks; with `wide` codes all characters have one. -/
inductive Written (wide : Bool) (q c : Char) : Text → Prop where
  | plain : c ≠ '\\' → c ≠ q → isPrintable c → (wide = false → c.toNat < 128) →
      Written wide q c [c]
  | letter {d} : simpleEscape? d = some c → Written wide q c ['\\', d]
  | code {d k} : hexEscapeLength? wide d = some k → c.toNat < 16 ^ k →
      Written wide q c ('\\' :: d :: hexPadded k c.toNat)

theorem isQuote_cases {q} (h : isQuote q) : q = '\'' ∨ q = '"' := by
  simpa only [isQuote, Bool.or_eq_true, beq_iff_eq] using h

theorem simpleEscape?_letter {d c} (h : simpleEscape? d = some c) :
    isPrintable d ∧ d.toNat < 128 := by
  have letters : ∀ e ∈ ['\\', '\'', '"', 'n', 't', 'r', 'a', 'b', 'f', 'v'],
      isPrintable e ∧ e.toNat < 128 := List.all_iff_forall_prop.mp (by decide)
  apply letters
  by_contra other
  simp only [List.mem_cons, List.not_mem_nil, or_false, not_or] at other
  simp [simpleEscape?, other] at h

theorem printable_ne_newline {c} (h : isPrintable c) : c ≠ '\n' := by
  rintro rfl
  cases h

theorem hexEscapeLength?_letter {wide d k} (h : hexEscapeLength? wide d = some k) :
    simpleEscape? d = none ∧ isPrintable d ∧ 0 < k ∧ d.toNat < 128 := by
  simp only [hexEscapeLength?, beq_iff_eq] at h
  split at h
  · cases h
    subst d
    decide
  · split at h
    · cases h
    · split at h
      · cases h
        subst d
        decide
      · split at h
        · cases h
          subst d
          decide
        · cases h

theorem digitChar_plain : ∀ d < 16, d.digitChar ≠ '\\' ∧ isQuote d.digitChar = false ∧
    isPrintable d.digitChar ∧ d.digitChar.toNat < 128 := by decide

theorem Written.shown {wide q c t} (h : Written wide q c t) :
    ∀ e ∈ t, isPrintable e ∧ (wide = false → e.toNat < 128) := by
  intro e he
  cases h with
  | plain _ _ hc hn =>
      rw [List.mem_singleton] at he
      exact he ▸ ⟨hc, hn⟩
  | letter hd =>
      simp only [List.mem_cons, List.not_mem_nil, or_false] at he
      rcases he with rfl | rfl
      · exact ⟨rfl, fun _ => by decide⟩
      · exact ⟨(simpleEscape?_letter hd).1, fun _ => (simpleEscape?_letter hd).2⟩
  | code hd _ =>
      simp only [List.mem_cons] at he
      rcases he with rfl | rfl | he
      · exact ⟨rfl, fun _ => by decide⟩
      · obtain ⟨-, shown, -, small⟩ := hexEscapeLength?_letter hd
        exact ⟨shown, fun _ => small⟩
      · obtain ⟨n, hn, rfl⟩ := mem_hexPadded he
        obtain ⟨-, -, shown, small⟩ := digitChar_plain n hn
        exact ⟨shown, fun _ => small⟩

namespace Inner

theorem append {q t u} (ht : Inner q t) (hu : Inner q u) : Inner q (t ++ u) := by
  induction ht with
  | nil => exact hu
  | plain h1 h2 h3 _ ih => exact .plain h1 h2 h3 ih
  | escape _ ih => exact .escape ih

theorem ofPlain {q} {t : Text} (h : ∀ c ∈ t, c ≠ '\\' ∧ c ≠ q ∧ c ≠ '\n') : Inner q t := by
  induction t with
  | nil => exact .nil
  | cons c t ih =>
      obtain ⟨h1, h2, h3⟩ := h c (by simp)
      exact .plain h1 h2 h3 (ih fun d hd => h d (by simp [hd]))

theorem ofWritten {wide q c t} (hq : isQuote q) (h : Written wide q c t) : Inner q t := by
  cases h with
  | plain h1 h2 h3 _ => exact .plain h1 h2 (printable_ne_newline h3) .nil
  | letter => exact .escape .nil
  | code hd hk =>
      refine .escape (ofPlain fun e he => ?_)
      obtain ⟨d, hd, rfl⟩ := mem_hexPadded he
      obtain ⟨h1, h2, h3, -⟩ := digitChar_plain d hd
      refine ⟨h1, ?_, printable_ne_newline h3⟩
      rintro rfl
      rw [hq] at h2
      cases h2

theorem closeQuote {q t} (hq : isQuote q) (h : Inner q t) (rest : Text) :
    closeQuote q false (t ++ q :: rest) = some (t, rest) := by
  induction h with
  | nil =>
      have hq' : q ≠ '\\' := by rintro rfl; cases hq
      cases rest with
      | nil => simp [Literal.closeQuote]
      | cons d rest => simp [Literal.closeQuote, hq']
  | @plain c t h1 h2 h3 _ ih =>
      obtain ⟨d, u, hu⟩ := List.exists_cons_of_ne_nil (l := t ++ q :: rest) (by simp)
      rw [List.cons_append, hu, Literal.closeQuote]
      rw [hu] at ih
      simp [h1, h2, h3, ih]
  | escape _ ih => simp [Literal.closeQuote, ih]

/-- Three marks in a row are met only where text between marks is empty and a mark is behind it. -/
theorem not_tripled {q t} (hq : isQuote q) (h : Inner q t) {rest : Text}
    (hr : rest.head? ≠ some q) : ((t ++ q :: rest).take 2 == [q, q]) = false := by
  cases h with
  | nil => cases rest <;> simp_all
  | plain _ h2 _ _ =>
      rw [beq_eq_false_iff_ne]
      intro e
      simp only [List.cons_append, List.take_succ_cons, List.cons.injEq] at e
      exact h2 e.1
  | escape _ =>
      rw [beq_eq_false_iff_ne]
      intro e
      simp only [List.cons_append, List.take_succ_cons, List.cons.injEq] at e
      rw [← e.1] at hq
      cases hq

/-- Letters that ask for text or bytes ask for no values. -/
theorem formatLetters_of_quote {letters : Text} {r : Bool × Bool}
    (h : quoteLetters? letters = some r) : formatLetters letters = false := by
  simp only [quoteLetters?] at h
  simp only [formatLetters]
  generalize letters.map Char.toLower = l at h ⊢
  split at h
  · rename_i known
    rcases known with rfl | rfl <;> rfl
  · split at h
    · rename_i known
      rw [known]
      rfl
    · split at h
      · rename_i known
        rw [known]
        rfl
      · split at h
        · rename_i known
          rcases known with rfl | rfl <;> rfl
        · cases h

theorem readQuoted {q t} (hq : isQuote q) (h : Inner q t) {letters : Text} {raw bytes : Bool}
    (hl : quoteLetters? letters = some (raw, bytes)) {rest : Text} (hr : rest.head? ≠ some q) :
    readQuoted letters q (t ++ q :: rest) = (quotedToken raw bytes t).map (·, rest) := by
  simp only [Literal.readQuoted, hl, formatLetters_of_quote hl, h.not_tripled hq hr,
    Bool.false_eq_true, if_false, h.closeQuote hq rest, Option.bind_eq_bind, Option.bind_some]
  cases quotedToken raw bytes t <;> rfl

end Inner

/-! ## Escapes -/

theorem mapM_eq_some {f : Char → Option Nat} {g : Char → Nat} {t : Text}
    (h : ∀ c ∈ t, f c = some (g c)) : t.mapM f = some (t.map g) := by
  induction t with
  | nil => rfl
  | cons c t ih => simp [List.mapM_cons, h c (by simp), ih fun d hd => h d (by simp [hd])]

theorem hexValue?_digitChar : ∀ d < 16, hexValue? d.digitChar = some d := by decide

theorem hexNumber?_hexPadded {k n : Nat} (hk : 0 < k) (hn : n < 16 ^ k) (t : Text) :
    hexNumber? k (hexPadded k n ++ t) = some n := by
  have length := hexPadded_length hk hn
  have digits : ∀ c ∈ hexPadded k n, hexValue? c = some ((hexValue? c).getD 0) := by
    intro c hc
    obtain ⟨d, hd, rfl⟩ := mem_hexPadded hc
    rw [hexValue?_digitChar d hd, Option.getD_some]
  have value := digitsValue_hexPadded (fun c => (hexValue? c).getD 0)
    (fun d hd => by simp only [hexValue?_digitChar d hd, Option.getD_some]) k n
  have long : ¬ (hexPadded k n ++ t).length < k := by simp [length]
  rw [hexNumber?, if_neg long, List.take_left' length, mapM_eq_some digits, Option.map_some, value]

theorem charOf?_toNat (c : Char) : charOf? c.toNat = some c := by
  have valid : c.toNat.isValidChar := c.valid
  rw [charOf?, if_pos valid, Char.ofNat_toNat]

theorem unescape_written {wide q c t} (h : Written wide q c t) (u : Text) :
    unescape wide (t ++ u) = (unescape wide u).map (c :: ·) := by
  cases h with
  | plain h1 =>
      rw [List.singleton_append, unescape.eq_def]
      simp [h1]
  | @letter d hd =>
      have hn : d ≠ '\n' := by rintro rfl; simp [simpleEscape?] at hd
      rw [List.cons_append, List.singleton_append, unescape.eq_def]
      simp [hn, hd]
  | @code d k hd hk =>
      obtain ⟨simple, shown, pos, -⟩ := hexEscapeLength?_letter hd
      have hn := printable_ne_newline shown
      have number : (hexNumber? k (hexPadded k c.toNat ++ u)).bind charOf? = some c := by
        rw [hexNumber?_hexPadded pos hk, Option.bind_some, charOf?_toNat]
      rw [List.cons_append, List.cons_append, unescape.eq_def]
      simp [hn, simple, hd, number, List.drop_left' (hexPadded_length pos hk)]

theorem unescape_flatMap {α : Type} {wide q} {write : α → Text} {shown : α → Char} (xs : List α)
    (h : ∀ x ∈ xs, Written wide q (shown x) (write x)) :
    unescape wide (xs.flatMap write) = some (xs.map shown) := by
  induction xs with
  | nil => simp [unescape]
  | cons x xs ih =>
      rw [List.flatMap_cons, unescape_written (h x (by simp)), ih fun y hy => h y (by simp [hy])]
      rfl

theorem escaped_written {q} (hq : isQuote q) (c : Char) : Written true q c (escaped q c) := by
  unfold escaped
  split
  · rename_i h
    refine .letter ?_
    rcases h with rfl | rfl
    · rcases isQuote_cases hq with rfl | rfl <;> rfl
    · rfl
  · rename_i marks
    rw [not_or] at marks
    split
    · subst c
      exact .letter rfl
    split
    · subst c
      exact .letter rfl
    split
    · subst c
      exact .letter rfl
    split
    · rename_i shown
      exact .plain marks.2 marks.1 shown (by simp)
    split
    · rename_i small
      exact .code rfl small
    split
    · rename_i small
      exact .code rfl small
    · have valid : c.toNat < 0x110000 := by
        have : c.toNat.isValidChar := c.valid
        unfold Nat.isValidChar at this
        omega
      exact .code rfl (by omega)

theorem byteChar_toNat (b : UInt8) : (Char.ofNat b.toNat).toNat = b.toNat := by
  have small := b.toNat_lt
  have valid : b.toNat.isValidChar := by
    unfold Nat.isValidChar
    omega
  rw [Char.ofNat, dif_pos valid]
  rfl

theorem escapedByte_written {q} (hq : isQuote q) (b : UInt8) :
    Written false q (Char.ofNat b.toNat) (escapedByte q b) := by
  simp only [escapedByte]
  split
  · rename_i h
    refine .letter ?_
    rcases h with h | h
    · rw [h]
      rcases isQuote_cases hq with rfl | rfl <;> rfl
    · rw [h]
      rfl
  · rename_i marks
    rw [not_or] at marks
    split
    · rename_i h
      rw [h]
      exact .letter rfl
    split
    · rename_i h
      rw [h]
      exact .letter rfl
    split
    · rename_i h
      rw [h]
      exact .letter rfl
    split
    · rename_i shown
      have ascii : (Char.ofNat b.toNat).toNat < 128 := by
        rw [byteChar_toNat]
        omega
      refine .plain marks.2 marks.1 ?_ fun _ => ascii
      rw [isPrintable, if_pos ascii, byteChar_toNat]
      simpa using shown
    · have small : (Char.ofNat b.toNat).toNat < 16 ^ 2 := by
        rw [byteChar_toNat]
        exact b.toNat_lt
      have code : Written false q _ ('\\' :: 'x' :: hexPadded 2 _) := .code rfl small
      rwa [byteChar_toNat] at code

/-! ## What stands between the marks -/

theorem quoteFor_isQuote (t : Text) : isQuote (quoteFor t) := by
  unfold quoteFor
  split <;> rfl

theorem inner_flatMap {α : Type} {wide q} (hq : isQuote q) {write : α → Text} {shown : α → Char}
    (xs : List α) (h : ∀ x ∈ xs, Written wide q (shown x) (write x)) :
    Inner q (xs.flatMap write) := by
  induction xs with
  | nil => exact .nil
  | cons x xs ih =>
      rw [List.flatMap_cons]
      exact .append (.ofWritten hq (h x (by simp))) (ih fun y hy => h y (by simp [hy]))

theorem shown_flatMap {α : Type} {wide q} {write : α → Text} {shown : α → Char} (xs : List α)
    (h : ∀ x ∈ xs, Written wide q (shown x) (write x)) :
    ∀ c ∈ xs.flatMap write, isPrintable c ∧ (wide = false → c.toNat < 128) := by
  intro c hc
  obtain ⟨x, hx, hc⟩ := List.mem_flatMap.mp hc
  exact (h x hx).shown c hc

/-- What `quoted` puts between two marks. -/
structure Body (wide : Bool) (q : Char) (body text : Text) : Prop where
  mark : isQuote q
  inner : Inner q body
  read : unescape wide body = some text
  shown : ∀ c ∈ body, isPrintable c ∧ (wide = false → c.toNat < 128)

theorem Body.ofWritten {α : Type} {wide q} (hq : isQuote q) {write : α → Text} {shown : α → Char}
    (xs : List α) (h : ∀ x ∈ xs, Written wide q (shown x) (write x)) :
    Body wide q (xs.flatMap write) (xs.map shown) :=
  ⟨hq, inner_flatMap hq xs h, unescape_flatMap xs h, shown_flatMap xs h⟩

theorem quoted_body (t : Text) :
    ∃ q body, quoted t = q :: (body ++ [q]) ∧ Body true q body t := by
  have hq := quoteFor_isQuote t
  have written : ∀ c ∈ t, Written true (quoteFor t) (id c) (escaped (quoteFor t) c) :=
    fun c _ => escaped_written hq c
  have body := Body.ofWritten hq t written
  rw [List.map_id] at body
  exact ⟨_, _, rfl, body⟩

theorem quotedBytes_body (bs : List UInt8) :
    ∃ q body, quotedBytes bs = 'b' :: q :: (body ++ [q]) ∧
      Body false q body (bs.map fun b => Char.ofNat b.toNat) := by
  have hq := quoteFor_isQuote (bs.map fun b => Char.ofNat b.toNat)
  exact ⟨_, _, rfl, .ofWritten hq bs fun b _ => escapedByte_written hq b⟩

end Stencil.Literal

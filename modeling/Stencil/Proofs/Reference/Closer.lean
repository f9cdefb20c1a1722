import Stencil.Proofs.Literal.Display
import Stencil.Reference.Closer

/-! # Bracketed text is passed over

The search for a closing bracket passes over the text of a plain literal, whatever
is open when it comes to it: brackets in the literal are closed in it, and those
in quotes are not met. So the bracket that is found is the first one behind.
-/

namespace Stencil.Reference

open Literal

theorem closer?_cases {c d : Char} (h : closer? c = some d) :
    c = '[' ∧ d = ']' ∨ c = '(' ∧ d = ')' := by
  simp only [closer?, beq_iff_eq] at h
  split at h
  · cases h
    exact .inl ⟨‹_›, rfl⟩
  · split at h
    · cases h
      exact .inr ⟨‹_›, rfl⟩
    · cases h

/-- Text that may stand between two marks: a mark or a backslash in it is behind a backslash. -/
inductive Unclosing (q : Char) : Text → Prop where
  | nil : Unclosing q []
  | plain {c t} : c ≠ '\\' → c ≠ q → Unclosing q t → Unclosing q (c :: t)
  | escape {c t} : Unclosing q t → Unclosing q ('\\' :: c :: t)

theorem unclosing {q t} (h : Literal.Inner q t) : Unclosing q t := by
  induction h with
  | nil => exact .nil
  | plain backslash mark _ _ ih => exact .plain backslash mark ih
  | escape _ ih => exact .escape ih

/-! ## What the search does at a character outside of quotes -/

theorem findCloserFrom_opening {o c : Char} (ho : closer? o = some c) (expected : List Char)
    (t : Text) : findCloserFrom expected .outside (o :: t) =
      (findCloserFrom (c :: expected) .outside t).map (· + 1) := by
  rcases closer?_cases ho with ⟨rfl, rfl⟩ | ⟨rfl, rfl⟩
  · rfl
  · rfl

theorem findCloserFrom_closing {o c : Char} (ho : closer? o = some c) {expected : List Char}
    (open_ : expected ≠ []) (t : Text) : findCloserFrom (c :: expected) .outside (c :: t) =
      (findCloserFrom expected .outside t).map (· + 1) := by
  cases expected with
  | nil => exact absurd rfl open_
  | cons d expected =>
      rcases closer?_cases ho with ⟨-, rfl⟩ | ⟨-, rfl⟩
      · rfl
      · rfl

theorem findCloserFrom_quote {q : Char} (mark : isQuote q) (expected : List Char) (t : Text) :
    findCloserFrom expected .outside (q :: t) =
      (findCloserFrom expected (.inside q false) t).map (· + 1) := by
  simp [findCloserFrom, Place.quotes, Place.after, mark]

theorem findCloserFrom_plain {c : Char} (quote : isQuote c = false)
    (bracket : c ∉ ['(', ')', '[', ']']) (expected : List Char) (t : Text) :
    findCloserFrom expected .outside (c :: t) =
      (findCloserFrom expected .outside t).map (· + 1) := by
  simp only [List.mem_cons, List.not_mem_nil, or_false, not_or] at bracket
  obtain ⟨h1, h2, h3, h4⟩ := bracket
  simp [findCloserFrom, Place.quotes, quote, closer?, h1, h2, h3, h4]

/-! ## Text that is passed over -/

/-- Text that the search for a closing bracket passes over. -/
def Sealed (w : Text) : Prop :=
  ∀ expected rest, expected ≠ [] → findCloserFrom expected .outside (w ++ rest) =
    (findCloserFrom expected .outside rest).map (· + w.length)

namespace Sealed

theorem nil : Sealed [] := by
  intro expected rest _
  simp

theorem append {w v} (hw : Sealed w) (hv : Sealed v) : Sealed (w ++ v) := by
  intro expected rest open_
  rw [List.append_assoc, hw _ _ open_, hv _ _ open_, Option.map_map]
  congr 1
  funext n
  simp only [Function.comp_apply, List.length_append]
  omega

/-- A character that is neither a quote nor one of the brackets that are matched. -/
theorem plain {c : Char} (quote : isQuote c = false) (bracket : c ∉ ['(', ')', '[', ']']) :
    Sealed [c] := by
  intro expected rest _
  exact findCloserFrom_plain quote bracket expected rest

theorem chars {w : Text} (h : ∀ c ∈ w, isQuote c = false ∧ c ∉ ['(', ')', '[', ']']) :
    Sealed w := by
  induction w with
  | nil => exact nil
  | cons c w ih =>
      obtain ⟨quote, bracket⟩ := h c (by simp)
      exact (plain quote bracket).append (ih fun d hd => h d (by simp [hd]))

theorem inside {q t} (hq : q ≠ '\\') (h : Unclosing q t) (expected : List Char) (rest : Text) :
    findCloserFrom expected (.inside q false) (t ++ q :: rest) =
      (findCloserFrom expected .outside rest).map (· + (t.length + 1)) := by
  induction h with
  | nil => simp [findCloserFrom, Place.quotes, Place.after, hq]
  | plain h1 h2 _ ih =>
      simp only [List.cons_append, findCloserFrom, Place.quotes, Place.after, if_true, ih,
        beq_eq_false_iff_ne.mpr h1, beq_eq_false_iff_ne.mpr h2, Bool.false_eq_true, if_false,
        Option.map_map, List.length_cons]
      rfl
  | escape _ ih =>
      simp only [List.cons_append, findCloserFrom, Place.quotes, Place.after, if_true, ih,
        BEq.rfl, Option.map_map, List.length_cons]
      rfl

theorem quoted {q body} (mark : isQuote q) (h : Unclosing q body) :
    Sealed (q :: (body ++ [q])) := by
  intro expected rest _
  have backslash : q ≠ '\\' := by
    rintro rfl
    cases mark
  have behind := inside backslash h expected rest
  rw [List.cons_append, List.append_assoc, List.singleton_append, findCloserFrom_quote mark,
    behind, Option.map_map]
  simp only [List.length_cons, List.length_append, List.length_nil]
  rfl

theorem bracket {o c : Char} {w : Text} (ho : closer? o = some c) (h : Sealed w) :
    Sealed (o :: (w ++ [c])) := by
  intro expected rest open_
  rw [List.cons_append, List.append_assoc, List.singleton_append, findCloserFrom_opening ho,
    h _ _ (List.cons_ne_nil _ _), findCloserFrom_closing ho open_, Option.map_map, Option.map_map]
  congr 1
  funext n
  simp only [Function.comp_apply, List.length_cons, List.length_append, List.length_nil]
  omega

theorem commas {ws : List Text} (h : ∀ w ∈ ws, Sealed w) : Sealed (Text.joinWith ", " ws) := by
  have sep : Sealed ", " := chars (List.all_iff_forall_prop.mp (by decide))
  induction ws with
  | nil => exact nil
  | cons w ws ih =>
      cases ws with
      | nil => exact h w (by simp)
      | cons v ws =>
          exact ((h w (by simp)).append sep).append (ih fun u hu => h u (by simp [hu]))

end Sealed

theorem not_bracket {c : Char} (h : isMark c = false) : c ∉ ['(', ')', '[', ']'] := by
  intro hc
  simp only [List.mem_cons, List.not_mem_nil, or_false] at hc
  rcases hc with rfl | rfl | rfl | rfl <;> cases h

theorem sealed_natText (n : Nat) : Sealed (natText n) := by
  refine .chars fun c hc => ?_
  have plain := natText_alphanum n c hc
  exact ⟨plain.quote, not_bracket plain.mark⟩

theorem sealed_display {l} (h : Plain l) : Sealed l.display := by
  induction h with
  | none => exact .chars (List.all_iff_forall_prop.mp (by decide))
  | bool b => cases b <;> exact .chars (List.all_iff_forall_prop.mp (by decide))
  | int i =>
      cases i with
      | ofNat n => exact sealed_natText n
      | negSucc n =>
          exact (Sealed.plain (c := '-') rfl (by decide)).append (sealed_natText (n + 1))
  | text t =>
      obtain ⟨q, body, e, between⟩ := quoted_body t
      change Sealed (Stencil.quoted t)
      rw [e]
      exact .quoted between.mark (unclosing between.inner)
  | bytes bs =>
      obtain ⟨q, body, e, between⟩ := quotedBytes_body bs
      change Sealed (Stencil.quotedBytes bs)
      rw [e]
      exact (Sealed.plain (c := 'b') rfl (by decide)).append
        (.quoted between.mark (unclosing between.inner))
  | list _ ih =>
      rw [display, displayAll_eq]
      exact .bracket rfl (.commas (List.forall_mem_map.mpr ih))
  | @tuple xs _ ih =>
      have items := Sealed.commas (List.forall_mem_map.mpr ih)
      have comma : Sealed (lastComma xs) := .chars fun c hc => by
        rw [mem_lastComma hc]
        decide
      rw [display_tuple, displayAll_eq]
      exact .bracket rfl (items.append comma)
  | dict _ _ _ ihk ihv =>
      have colon : Sealed ": " := .chars (List.all_iff_forall_prop.mp (by decide))
      have entries := Sealed.commas (List.forall_mem_map.mpr fun e he =>
        ((ihk e he).append colon).append (ihv e he))
      have opening : Sealed ['\x7b'] := .plain rfl (by decide)
      have closing : Sealed ['\x7d'] := .plain rfl (by decide)
      rw [display, displayEntries_eq]
      exact opening.append (entries.append closing)

/-- Behind the text of a literal the first closing bracket is the one that is looked for. -/
theorem findCloser_sealed {o c : Char} {w : Text} (ho : closer? o = some c)
    (hc : c ∈ [')', ']']) (h : Sealed w) (rest : Text) :
    findCloser o (w ++ c :: rest) = some w.length := by
  have found : findCloserFrom [c] .outside (c :: rest) = some 0 := by
    simp only [List.mem_cons, List.not_mem_nil, or_false] at hc
    rcases hc with rfl | rfl <;> rfl
  rw [findCloser, ho]
  simp only [h _ _ (List.cons_ne_nil _ _), found, Option.map_some, Nat.zero_add]

end Stencil.Reference

import Stencil.Proofs.Reference.Closer

/-! # The bracket that is found matches

Between an opening bracket and the closing one that is found for it every quote
is closed, and outside of quotes every bracket by one of its own kind. And where
text like that stands between two brackets of a kind, the second one is found.
-/

namespace Stencil.Reference

/-- Text whose quotes and brackets are closed in it. -/
inductive Matched : Text → Prop where
  | nil : Matched []
  | plain {c t} : isQuote c = false → c ∉ ['(', ')', '[', ']'] → Matched t → Matched (c :: t)
  | quoted {q body t} : isQuote q → Unclosing q body → Matched t →
      Matched (q :: (body ++ q :: t))
  | bracket {o c inner t} : closer? o = some c → Matched inner → Matched t →
      Matched (o :: (inner ++ c :: t))

theorem Matched.sealed {t} (h : Matched t) : Sealed t := by
  induction h with
  | nil => exact .nil
  | plain quote bracket _ ih => exact (Sealed.plain quote bracket).append ih
  | quoted mark body _ ih => simpa using (Sealed.quoted mark body).append ih
  | bracket opens _ _ inner ih => simpa using (Sealed.bracket opens inner).append ih

/-- A search that gets on from inside of quotes meets the mark that closes them. -/
theorem unclosing_before {expected : List Char} {q : Char} {t : Text}
    (h : (findCloserFrom expected (.inside q false) t).isSome) :
    ∃ body rest, t = body ++ q :: rest ∧ Unclosing q body ∧
      (findCloserFrom expected .outside rest).isSome := by
  match t with
  | [] => cases h
  | c :: t =>
      by_cases escape : c = '\\'
      · subst escape
        match t with
        | [] => cases h
        | d :: t =>
            simp only [findCloserFrom, Place.quotes, Place.after, BEq.rfl, if_true,
              Option.isSome_map] at h
            obtain ⟨body, rest, rfl, inside, found⟩ := unclosing_before h
            exact ⟨'\\' :: d :: body, rest, rfl, .escape inside, found⟩
      · simp only [findCloserFrom, Place.quotes, Place.after, beq_eq_false_iff_ne.mpr escape,
          Bool.false_eq_true, if_true, if_false, Option.isSome_map] at h
        by_cases mark : c = q
        · subst mark
          rw [BEq.rfl, if_pos rfl] at h
          exact ⟨[], t, rfl, .nil, h⟩
        · rw [beq_eq_false_iff_ne.mpr mark, if_neg Bool.false_ne_true] at h
          obtain ⟨body, rest, rfl, inside, found⟩ := unclosing_before h
          exact ⟨c :: body, rest, rfl, .plain escape mark inside, found⟩

/-- A search that succeeds meets the bracket that closes the innermost open one. The recursion is
    on the length: behind a nested bracket it goes on from where that one is closed. -/
theorem matched_before {d : Char} {outer : List Char} {t : Text}
    (h : (findCloserFrom (d :: outer) .outside t).isSome) :
    ∃ inner rest, t = inner ++ d :: rest ∧ Matched inner := by
  match t with
  | [] => cases h
  | c :: t =>
      cases quote : isQuote c with
      | true =>
          rw [findCloserFrom_quote quote, Option.isSome_map] at h
          obtain ⟨body, rest, rfl, inside, found⟩ := unclosing_before h
          obtain ⟨inner, rest, rfl, matched⟩ := matched_before found
          exact ⟨c :: (body ++ c :: inner), rest, by simp, .quoted quote inside matched⟩
      | false =>
          cases opens : closer? c with
          | some e =>
              rw [findCloserFrom_opening opens, Option.isSome_map] at h
              obtain ⟨inner, rest, rfl, matched⟩ := matched_before h
              rw [matched.sealed _ _ (List.cons_ne_nil _ _),
                findCloserFrom_closing opens (List.cons_ne_nil _ _), Option.isSome_map,
                Option.isSome_map] at h
              obtain ⟨more, rest, rfl, matched'⟩ := matched_before h
              exact ⟨c :: (inner ++ e :: more), rest, by simp, .bracket opens matched matched'⟩
          | none =>
              by_cases closing : c ∈ [')', ']']
              · have same : c = d := by
                  by_contra other
                  simp only [List.mem_cons, List.not_mem_nil, or_false] at closing
                  simp [findCloserFrom, Place.quotes, quote, opens, closing, other] at h
                exact ⟨[], t, by rw [same, List.nil_append], .nil⟩
              · have bracket : c ∉ ['(', ')', '[', ']'] := by
                  intro hc
                  simp only [List.mem_cons, List.not_mem_nil, or_false, not_or] at hc closing
                  rcases hc with rfl | rfl | rfl | rfl
                  · cases opens
                  · exact closing.1 rfl
                  · cases opens
                  · exact closing.2 rfl
                rw [findCloserFrom_plain quote bracket, Option.isSome_map] at h
                obtain ⟨inner, rest, rfl, matched⟩ := matched_before h
                exact ⟨c :: inner, rest, rfl, .plain quote bracket matched⟩
termination_by t.length

theorem findCloser_matched {o c : Char} {inner : Text} (opens : closer? o = some c)
    (h : Matched inner) (rest : Text) :
    findCloser o (inner ++ c :: rest) = some inner.length := by
  apply findCloser_sealed opens _ h.sealed
  rcases closer?_cases opens with ⟨-, rfl⟩ | ⟨-, rfl⟩
  · simp
  · simp

theorem findCloser_iff {o : Char} {t : Text} {i : Nat} : findCloser o t = some i ↔
    ∃ c inner rest, closer? o = some c ∧ t = inner ++ c :: rest ∧ inner.length = i ∧
      Matched inner := by
  constructor
  · intro h
    rw [findCloser] at h
    split at h
    · rename_i c opens
      obtain ⟨inner, rest, rfl, matched⟩ := matched_before (Option.isSome_of_eq_some h)
      have found := findCloser_matched opens matched rest
      rw [findCloser, opens] at found
      exact ⟨c, inner, rest, opens, rfl, Option.some.inj (found.symm.trans h), matched⟩
    · cases h
  · rintro ⟨c, inner, rest, opens, rfl, rfl, matched⟩
    exact findCloser_matched opens matched rest

/-- Whatever the search passes over is matched text. -/
theorem Sealed.matched {w : Text} (h : Sealed w) : Matched w := by
  have found := findCloser_sealed (o := '(') (c := ')') rfl (by simp) h []
  obtain ⟨c, inner, rest, -, split, length, matched⟩ := findCloser_iff.mp found
  rw [(List.append_inj split length.symm).1]
  exact matched

end Stencil.Reference

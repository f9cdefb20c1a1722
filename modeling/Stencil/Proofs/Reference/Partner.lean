import Mathlib.Order.Bounds.Defs
import Stencil.Proofs.Reference.Settled
import Stencil.Proofs.Template.Overflow

/-! # The partner of a bracket

The brackets of a text outside of its quotes make a word, and a bracket has its
partner where the word between the two nests properly, each bracket closed by one
of its own kind. The search for a closing bracket finds the partner wherever there
is one, and fails exactly if there is none: a bracket that is closed wrongly, or a
quote that stays open, rules out every later one.
-/

namespace Stencil.Reference

open Layout Template

/-- The brackets of a text from a place on that do not count as quoted. -/
def bracketsFrom (p : Place) (t : Text) : List Char :=
  (bareFrom p t).filter fun c => ['(', ')', '[', ']'].contains c

/-- A word of brackets in which each is closed by one of its own kind. -/
inductive Nested : List Char → Prop where
  | nil : Nested []
  | pair {o c inner rest} : closer? o = some c → Nested inner → Nested rest →
      Nested (o :: (inner ++ c :: rest))

def between (s : Text) (start stop : Nat) : Text := (s.take stop).drop (start + 1)

/-- The bracket at an offset is closed at another one behind it: quotes that open between the two
    are closed, and so are brackets outside of them. -/
structure ClosedAt (s : Text) (start stop : Nat) : Prop where
  behind : start < stop
  pair : ∃ o c, s[start]? = some o ∧ closer? o = some c ∧ s[stop]? = some c
  unquoted : (between s start stop).foldl Place.after .outside = .outside
  nested : Nested (bracketsFrom .outside (between s start stop))

/-! ## Words of brackets -/

theorem bracketsFrom_append (p : Place) (t u : Text) :
    bracketsFrom p (t ++ u) = bracketsFrom p t ++ bracketsFrom (t.foldl Place.after p) u := by
  rw [bracketsFrom, bareFrom_append, List.filter_append]
  rfl

/-- Inside of quotes, and at a mark that opens them, nothing counts. -/
theorem bracketsFrom_quoted {p : Place} {c : Char} (quoted : p.quotes c = true) (t : Text) :
    bracketsFrom p (c :: t) = bracketsFrom (p.after c) t := by
  rw [bracketsFrom, bareFrom_cons, if_pos quoted]
  rfl

theorem bareFrom_outside {c : Char} (quote : isQuote c = false) (t : Text) :
    bareFrom .outside (c :: t) = c :: bareFrom .outside t := by
  rw [bareFrom_cons, Place.quotes, quote, if_neg Bool.false_ne_true, after_outside quote]

theorem bracketsFrom_bracket {c : Char} (quote : isQuote c = false)
    (bracket : c ∈ ['(', ')', '[', ']']) (t : Text) :
    bracketsFrom .outside (c :: t) = c :: bracketsFrom .outside t := by
  rw [bracketsFrom, bareFrom_outside quote,
    List.filter_cons_of_pos (List.contains_iff_mem.mpr bracket)]
  rfl

theorem bracketsFrom_plain {c : Char} (quote : isQuote c = false)
    (plain : c ∉ ['(', ')', '[', ']']) (t : Text) :
    bracketsFrom .outside (c :: t) = bracketsFrom .outside t := by
  rw [bracketsFrom, bareFrom_outside quote,
    List.filter_cons_of_neg fun h => plain (List.contains_iff_mem.mp h)]
  rfl

/-- Of two brackets that make a pair, neither is a quote, and the second opens nothing. -/
theorem pair_facts {o c : Char} (opens : closer? o = some c) :
    (isQuote o = false ∧ o ∈ ['(', ')', '[', ']']) ∧
      (isQuote c = false ∧ c ∈ ['(', ')', '[', ']']) ∧ closer? c = none := by
  rcases closer?_cases opens with ⟨rfl, rfl⟩ | ⟨rfl, rfl⟩
  · decide
  · decide

theorem exists_opening {c : Char} (bracket : c ∈ ['(', ')', '[', ']'])
    (closes : closer? c = none) : ∃ o, closer? o = some c := by
  simp only [List.mem_cons, List.not_mem_nil, or_false] at bracket
  rcases bracket with rfl | rfl | rfl | rfl
  · cases closes
  · exact ⟨'(', rfl⟩
  · cases closes
  · exact ⟨'[', rfl⟩

theorem Matched.nested {t : Text} (h : Matched t) : Nested (bracketsFrom .outside t) := by
  induction h with
  | nil => exact .nil
  | plain quote plain _ ih => rwa [bracketsFrom_plain quote plain]
  | @quoted q body t mark inner _ ih =>
      obtain ⟨place, bare⟩ := unclosing_passed mark inner
      have opened : Place.outside.after q = .inside q false := by simp [Place.after, mark]
      have counts : Place.outside.quotes q = true := mark
      have hidden : bracketsFrom (.inside q false) (body ++ [q]) = [] := by
        rw [bracketsFrom, bare]
        rfl
      rw [bracketsFrom_quoted counts, opened, List.append_cons, bracketsFrom_append, hidden, place]
      exact ih
  | @bracket o c inner t opens matched _ ihi iht =>
      obtain ⟨⟨quote, mem⟩, ⟨quote', mem'⟩, -⟩ := pair_facts opens
      rw [bracketsFrom_bracket quote mem, bracketsFrom_append, matched.settled.place,
        bracketsFrom_bracket quote' mem']
      exact .pair opens ihi iht

/-! ## What a word of brackets does to those that are open -/

/-- What closes the brackets that are open behind a word, when none is closed wrongly in it and at
    least one stays open. -/
def pass : List Char → List Char → Option (List Char)
  | expected, [] => some expected
  | expected, b :: word =>
      match closer? b, expected with
      | some d, _ => pass (d :: expected) word
      | none, d :: e :: outer => if b = d then pass (e :: outer) word else none
      | none, _ => none

theorem pass_opening {o d : Char} (opens : closer? o = some d) (expected word : List Char) :
    pass expected (o :: word) = pass (d :: expected) word := by
  simp only [pass, opens]

theorem pass_closing {c : Char} (closes : closer? c = none) (e : Char)
    (outer word : List Char) : pass (c :: e :: outer) (c :: word) = pass (e :: outer) word := by
  simp only [pass, closes, if_pos]

/-- A bracket that opens nothing can only close the last one, and not the first. -/
theorem pass_closes {expected expected' word : List Char} {c : Char} (closes : closer? c = none)
    (h : pass expected (c :: word) = some expected') : ∃ e outer,
    expected = c :: e :: outer ∧ pass (e :: outer) word = some expected' := by
  simp only [pass, closes] at h
  split at h
  · contradiction
  · split at h
    · rename_i same
      subst same
      exact ⟨_, _, rfl, h⟩
    · cases h
  · cases h

/-- Properly nested brackets leave those open that were open before. -/
theorem Nested.pass {word : List Char} (h : Nested word) (d : Char) (outer more : List Char) :
    Reference.pass (d :: outer) (word ++ more) = Reference.pass (d :: outer) more := by
  induction h generalizing d outer more with
  | nil => rfl
  | pair opens _ _ ihi ihr =>
      obtain ⟨-, -, closes⟩ := pair_facts opens
      rw [List.cons_append, List.append_assoc, List.cons_append, pass_opening opens, ihi,
        pass_closing closes, ihr]

/-- The search passes over text whose brackets close nothing wrongly. -/
theorem findCloserFrom_pass {expected expected' : List Char} {p : Place} {t : Text}
    (h : pass expected (bracketsFrom p t) = some expected') (rest : Text) :
    findCloserFrom expected p (t ++ rest) =
      (findCloserFrom expected' (t.foldl Place.after p) rest).map (· + t.length) := by
  induction t generalizing expected p with
  | nil =>
      cases h
      simp
  | cons c t ih =>
      have further {expected₁ : List Char} {q : Place}
          (h : pass expected₁ (bracketsFrom q t) = some expected') :
          (findCloserFrom expected₁ q (t ++ rest)).map (· + 1) =
            (findCloserFrom expected' (t.foldl Place.after q) rest).map (· + (c :: t).length) := by
        rw [ih h, Option.map_map]
        rfl
      rw [List.cons_append, List.foldl_cons]
      cases quoted : p.quotes c with
      | true =>
          rw [bracketsFrom_quoted quoted] at h
          simp only [findCloserFrom, quoted, if_true]
          exact further h
      | false =>
          obtain rfl : p = .outside := by
            cases p with
            | outside => rfl
            | inside => cases quoted
          rw [after_outside quoted]
          by_cases bracket : c ∈ ['(', ')', '[', ']']
          · rw [bracketsFrom_bracket quoted bracket] at h
            cases opens : closer? c with
            | some d =>
                rw [pass_opening opens] at h
                rw [findCloserFrom_opening opens]
                exact further h
            | none =>
                obtain ⟨e, outer, rfl, behind⟩ := pass_closes opens h
                obtain ⟨o, pair⟩ := exists_opening bracket opens
                rw [findCloserFrom_closing pair (List.cons_ne_nil e outer)]
                exact further behind
          · rw [bracketsFrom_plain quoted bracket] at h
            rw [findCloserFrom_plain quoted bracket]
            exact further h

theorem matched_iff {t : Text} :
    Matched t ↔ t.foldl Place.after .outside = .outside ∧ Nested (bracketsFrom .outside t) := by
  constructor
  · intro h
    exact ⟨h.settled.place, h.nested⟩
  · rintro ⟨place, nested⟩
    refine Sealed.matched fun expected rest opened => ?_
    obtain ⟨d, outer, rfl⟩ := List.exists_cons_of_ne_nil opened
    have passed := nested.pass d outer []
    rw [List.append_nil] at passed
    rw [findCloserFrom_pass passed, place]

/-! ## Offsets in a text -/

theorem between_eq {s inner rest : Text} {start : Nat} {c : Char}
    (split : s.drop (start + 1) = inner ++ c :: rest) :
    between s start (start + 1 + inner.length) = inner := by
  rw [between, List.drop_take, split, Nat.add_sub_cancel_left, List.take_left]

theorem closedAt_iff {s : Text} {start stop : Nat} {o : Char} (found : s[start]? = some o) :
    ClosedAt s start stop ↔ ∃ c inner rest, closer? o = some c ∧
      s.drop (start + 1) = inner ++ c :: rest ∧ start + 1 + inner.length = stop ∧
      Matched inner := by
  constructor
  · rintro ⟨behind, ⟨o', c, opening, opens, closing⟩, unquoted, nested⟩
    obtain rfl : o' = o := Option.some.inj (opening.symm.trans found)
    obtain ⟨n, rfl⟩ := Nat.exists_eq_add_of_lt behind
    have here : (s.drop (start + 1))[n]? = some c := by
      rw [List.getElem?_drop, ← closing]
      congr 1
      omega
    obtain ⟨inside, same⟩ := List.getElem?_eq_some_iff.mp here
    have inner : between s start (start + n + 1) = (s.drop (start + 1)).take n := by
      rw [between, List.drop_take]
      congr 1
      omega
    refine ⟨c, (s.drop (start + 1)).take n, (s.drop (start + 1)).drop (n + 1), opens, ?_, ?_,
      inner ▸ matched_iff.mpr ⟨unquoted, nested⟩⟩
    · rw [← same, List.getElem_cons_drop, List.take_append_drop]
    · rw [List.length_take_of_le (Nat.le_of_lt inside)]
      omega
  · rintro ⟨c, inner, rest, opens, split, rfl, matched⟩
    have whole := between_eq split
    obtain ⟨place, nested⟩ := matched_iff.mp matched
    refine ⟨by omega, ⟨o, c, found, opens, ?_⟩, by rwa [whole], by rwa [whole]⟩
    rw [← List.getElem?_drop, split, List.getElem?_append_right (Nat.le_refl _), Nat.sub_self]
    rfl

/-- The search finds the partner of a bracket, and nothing if there is none. -/
theorem findCloser_closedAt {s : Text} {start stop : Nat} {o : Char}
    (found : s[start]? = some o) :
    (findCloser o (s.drop (start + 1))).map (start + 1 + ·) = some stop ↔
      ClosedAt s start stop := by
  rw [closedAt_iff found, Option.map_eq_some_iff]
  constructor
  · rintro ⟨n, met, rfl⟩
    obtain ⟨c, inner, rest, opens, split, rfl, matched⟩ := findCloser_iff.mp met
    exact ⟨c, inner, rest, opens, split, rfl, matched⟩
  · rintro ⟨c, inner, rest, opens, split, rfl, matched⟩
    exact ⟨inner.length, findCloser_iff.mpr ⟨c, inner, rest, opens, split, rfl, matched⟩, rfl⟩

/-! ## The failure of a search -/

theorem readLiteral_balanced {source : Text} {o : Char} :
    readLiteral source ≠ .error (.unbalanced o) := by
  unfold readLiteral
  split <;> simp

theorem bracketStep_balanced {o o' : Char} {inner : Text} :
    bracketStep o inner ≠ .error (.unbalanced o') := by
  intro h
  unfold bracketStep at h
  split at h
  · exact readLiteral_balanced (map_error h)
  · split at h
    · cases h
    · exact readLiteral_balanced (map_error h)

/-- Only where a search fails is a step refused as unbalanced. -/
theorem readStep_unbalanced_iff {o d : Char} (opens : closer? o = some d) {t : Text} :
    readStep o t = .error (.unbalanced o) ↔ findCloser o t = none := by
  have point : o ≠ '.' := by
    rintro rfl
    cases opens
  rw [readStep, if_neg point, opens, Option.isSome_some, if_pos rfl]
  cases findCloser o t with
  | none => simp
  | some i =>
      simp only [reduceCtorEq, iff_false]
      intro h
      exact bracketStep_balanced (map_error h)

/-- The offset that is found for a bracket is the least at which the bracket is closed: where the
    brackets between the two that are not quoted nest, and the second makes a pair with the first.
    If there is none, the step is refused as unbalanced. And the search takes nothing off an empty
    list of brackets, whatever the text is. -/
theorem closer_least {s : Text} {start : Nat} {o d : Char} (opening : s[start]? = some o)
    (opens : closer? o = some d) :
    (∀ i, (findCloser o (s.drop (start + 1))).map (start + 1 + ·) = some i ↔
        IsLeast {i | ClosedAt s start i} i) ∧
      (readStep o (s.drop (start + 1)) = .error (.unbalanced o) ↔ ¬∃ i, ClosedAt s start i) ∧
      searchFrom [d] .outside 0 (s.drop (start + 1)) =
        .ofOption (findCloser o (s.drop (start + 1))) := by
  refine ⟨fun i => ?_, ?_, ?_⟩
  · rw [findCloser_closedAt opening]
    refine ⟨fun h => ⟨h, fun j other => ?_⟩, fun least => least.1⟩
    have here := (findCloser_closedAt opening).mpr h
    have there := (findCloser_closedAt opening).mpr other
    exact Nat.le_of_eq (Option.some.inj (here.symm.trans there))
  · rw [readStep_unbalanced_iff opens, not_exists]
    simp only [← findCloser_closedAt opening]
    cases findCloser o (s.drop (start + 1)) <;> simp
  · rw [searchFrom_eq (List.cons_ne_nil d []), findCloser, opens]
    simp

/-- A closing bracket in quotes and a pair of the other kind stand before the partner; without the
    last character there is none. -/
theorem closer_least_quoted :
    let s : Text := "f([(0), ']\\''])"
    s[2]? = some '[' ∧ closer? '[' = some ']' ∧
      IsLeast {i | ClosedAt s 2 i} 13 ∧
      readStep '(' (s.dropLast.drop 2) = .error (.unbalanced '(') ∧
      ¬∃ i, ClosedAt s.dropLast 1 i := by
  intro s
  have opening : s[2]? = some '[' := rfl
  have found : (findCloser '[' (s.drop 3)).map (3 + ·) = some 13 := rfl
  have missing : findCloser '(' (s.dropLast.drop 2) = none := rfl
  obtain ⟨least, -, -⟩ := closer_least (d := ']') opening rfl
  have opening' : s.dropLast[1]? = some '(' := rfl
  obtain ⟨-, fails, -⟩ := closer_least (d := ')') opening' rfl
  have refused := (readStep_unbalanced_iff (o := '(') (d := ')') rfl).mpr missing
  exact ⟨opening, rfl, (least 13).mp found, refused, fails.mp refused⟩

end Stencil.Reference

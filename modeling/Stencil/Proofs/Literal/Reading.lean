import Mathlib.Data.List.Basic
import Stencil.Literal.Read

/-! # What tokens are read as

The tokens of a literal are parsed as one expression wherever something behind
them closes it, whatever that is and however many steps are left beyond those
that the tokens need. Elements of brackets are taken one comma at a time, and the
entries of a dictionary stay in order because no two of their keys are the same.
-/

namespace Stencil.Literal

open Parse Expression

/-! ## Where expressions begin and end -/

variable {token : Token} {ts us : List Token} {e : Expression} {l : Literal} {n m : Nat}

/-- Tokens that may stand behind an element of brackets. -/
def closers : List Token := [.mark ',', .mark ':', .mark ')', .mark ']', .mark '\x7d']

/-- What is left closes an element. -/
def Closes (ts : List Token) : Prop := ∀ token ∈ ts.head?, token ∈ closers

def constantNames : List Text := ["None", "True", "False"]

/-- Tokens that literals begin with. -/
def begins : Token → Bool
  | .number _ | .text _ | .bytes _ => true
  | .name t => constantNames.contains t
  | .mark c => c ∈ ['(', '[', '\x7b', '-']
  | _ => false

theorem run_bind {α β : Type} (p : Parse α) (f : α → Parse β) (ts : List Token) :
    (p >>= f) ts = (p ts).bind fun r => f r.1 r.2 := rfl

theorem run_pure {α : Type} (x : α) (ts : List Token) : (pure x : Parse α) ts = some (x, ts) := rfl

theorem accept_next (token : Token) (ts : List Token) :
    accept token (token :: ts) = some (true, ts) := by
  simp [accept]

theorem accept_not (h : ∀ t ∈ ts.head?, t ≠ token) : accept token ts = some (false, ts) := by
  cases ts with
  | nil => rfl
  | cons t ts => simp [accept, h t rfl]

theorem expect_next (token : Token) (ts : List Token) :
    expect token (token :: ts) = some ((), ts) := by
  simp [expect, run_bind, accept_next, run_pure]

theorem closes_cons (h : token ∈ closers) (ts : List Token) : Closes (token :: ts) := by
  intro t ht
  cases ht
  exact h

theorem closes_mark {c : Char} (h : .mark c ∈ closers) (ts : List Token) : Closes (.mark c :: ts) :=
  closes_cons h ts

/-- Only marks close anything. -/
theorem Closes.accept_name (h : Closes ts) (t : Text) : acceptName t ts = some (false, ts) := by
  apply accept_not
  rintro token ht rfl
  have known := h _ ht
  simp [closers] at known

theorem Closes.accept_operator (h : Closes ts) (t : Text) :
    acceptOperator t ts = some (false, ts) := by
  apply accept_not
  rintro token ht rfl
  have known := h _ ht
  simp [closers] at known

theorem Closes.accept_mark (h : Closes ts) {c : Char} (hc : .mark c ∉ closers) :
    acceptMark c ts = some (false, ts) := by
  apply accept_not
  rintro token ht rfl
  exact hc (h _ ht)

theorem accept_begins (h : begins token) {other : Token} (no : begins other = false) :
    accept other (token :: ts) = some (false, token :: ts) := by
  apply accept_not
  rintro t ⟨⟩ rfl
  rw [h] at no
  cases no

theorem operator_begins (h : begins token) (t : Text) :
    acceptOperator t (token :: ts) = some (false, token :: ts) := accept_begins h rfl

theorem mark_begins (h : begins token) {c : Char} (hc : c ∉ ['(', '[', '\x7b', '-']) :
    acceptMark c (token :: ts) = some (false, token :: ts) := accept_begins h (decide_eq_false hc)

theorem name_begins (h : begins token) {t : Text} (ht : constantNames.contains t = false) :
    acceptName t (token :: ts) = some (false, token :: ts) := accept_begins h ht

/-- What a literal begins with is no name that is given a value. -/
theorem assigns_begins (h : begins token) (o : Text) :
    assigns o (token :: ts) = some (false, token :: ts) := by
  unfold assigns
  split
  · rename_i t _ _ eq
    cases eq
    have constant : keywords.contains t := by
      have names : constantNames ⊆ keywords := by decide
      exact List.contains_iff_mem.mpr (names (List.contains_iff_mem.mp h))
    simp only [constant, Bool.not_true, Bool.false_and, Bool.false_eq_true, if_false]
  · rfl

/-! ## Nothing behind what is closed -/

variable {inner : Rank → Parse Expression}

namespace Closes

theorem trailers (h : Closes ts) (e : Expression) :
    Parse.trailers inner n e (m + 1) ts = some (e, ts) := by
  have parenthesis := h.accept_mark (c := '(') (by decide)
  have bracket := h.accept_mark (c := '[') (by decide)
  simp [Parse.trailers, run_bind, run_pure, h.accept_operator, parenthesis, bracket]

theorem operation (h : Closes ts) : Parse.operation ts = some (none, ts) := by
  unfold Parse.operation
  split
  · rename_i c _
    have known := h _ rfl
    have plus : c ≠ '+' := by
      rintro rfl
      revert known
      decide
    have minus : c ≠ '-' := by
      rintro rfl
      revert known
      decide
    simp [plus, minus]
  · have known := h _ rfl
    simp [closers] at known
  · rfl

theorem operations (h : Closes ts) (e : Expression) :
    Parse.operations inner n e (m + 1) ts = some (e, ts) := by
  simp [Parse.operations, run_bind, run_pure, h.operation]

theorem relation (h : Closes ts) : Parse.relation ts = some (false, ts) := by
  simp only [Parse.relation, run_bind, h.accept_name, Option.bind_some, Bool.false_eq_true,
    if_false]
  split
  · have known := h _ rfl
    simp [closers] at known
  · have known := h _ rfl
    simp [closers] at known
  · rfl

theorem connected (h : Closes ts) : Parse.connected inner n (m + 1) ts = some (false, ts) := by
  simp [Parse.connected, junction, run_bind, run_pure, h.relation, h.accept_name]

theorem clauses (h : Closes ts) : Parse.clauses inner (m + 1) ts = some (false, ts) := by
  simp [Parse.clauses, run_bind, run_pure, h.accept_name]

end Closes

/-- An operand that is closed is an expression. -/
theorem expression_closed (begin : begins token)
    (operand : operand inner (n + 1) (n + 1) (token :: ts) = some (e, us)) (closed : Closes us) :
    Parse.expression inner (n + 1) (token :: ts) = some (e, us) := by
  have lambda : acceptName "lambda" (token :: ts) = some (false, token :: ts) :=
    name_begins begin (by decide)
  have negation : acceptName "not" (token :: ts) = some (false, token :: ts) :=
    name_begins begin (by decide)
  simp only [Parse.expression, disjunction, negations, arithmetic, run_bind, lambda, negation,
    operand, closed.operations, closed.connected, closed.accept_name, run_pure, Option.bind_some,
    Bool.false_eq_true, Bool.or_self, if_false]

/-- A part that is closed and has no sign in front is an operand. -/
theorem operand_closed (begin : begins token) (sign : token ≠ .mark '-')
    (atom : atom inner (n + 1) (token :: ts) = some (e, us)) (closed : Closes us) :
    operand inner (n + 1) (m + 1) (token :: ts) = some (e, us) := by
  have plus : acceptMark '+' (token :: ts) = some (false, token :: ts) :=
    mark_begins begin (by decide)
  have minus : acceptMark '-' (token :: ts) = some (false, token :: ts) := by
    apply accept_not
    rintro t ⟨⟩
    exact sign
  have await : acceptName "await" (token :: ts) = some (false, token :: ts) :=
    name_begins begin (by decide)
  simp only [operand, primary, run_bind, plus, minus, operator_begins begin, await, atom,
    closed.trailers, Option.bind_some, Bool.false_eq_true, if_false]

theorem operand_negative (h : operand inner n m ts = some (e, us)) :
    operand inner n (m + 1) (.mark '-' :: ts) = some (.signed true e, us) := by
  have plus : acceptMark '+' (.mark '-' :: ts) = some (false, .mark '-' :: ts) := rfl
  have minus : acceptMark '-' (.mark '-' :: ts) = some (true, ts) := rfl
  rw [operand]
  simp only [run_bind, plus, minus, h, run_pure, Option.bind_some, Bool.false_eq_true, if_false,
    if_true]

/-! ## What tokens are parsed as -/

/-- Tokens that are parsed as an expression in front of whatever closes it. -/
structure Parses (ts : List Token) (e : Expression) : Prop where
  start : ∃ token us, ts = token :: us ∧ begins token
  descend : ∀ n rest, ts.length ≤ n → Closes rest →
    Parse.descend n .expression (ts ++ rest) = some (e, rest)

/-- Tokens that are read as a literal. -/
def Reads (ts : List Token) (l : Literal) : Prop := ∃ e, Parses ts e ∧ e.evaluate = .ok l

theorem parses_atom (begin : begins token) (sign : token ≠ .mark '-')
    (h : ∀ n rest, ts.length ≤ n → Closes rest →
      atom (descend n) (n + 1) (token :: (ts ++ rest)) = some (e, rest)) :
    Parses (token :: ts) e where
  start := ⟨token, ts, rfl, begin⟩
  descend n rest long closed := by
    cases n with
    | zero => cases long
    | succ n =>
        have atom := h n rest (Nat.le_of_succ_le_succ long) closed
        exact expression_closed begin (operand_closed begin sign atom closed) closed

/-- Quoted text is not joined to what closes it. -/
theorem Closes.joinQuoted (h : Closes ts) (e : Expression) :
    Parse.joinQuoted e ts = some (e, ts) := by
  cases ts with
  | nil => rfl
  | cons token ts =>
      have known := h token rfl
      simp only [closers, List.mem_cons, List.not_mem_nil, or_false] at known
      rcases known with rfl | rfl | rfl | rfl | rfl <;> rfl

theorem reads_none : Reads [.name "None"] (.scalar .none) :=
  ⟨.constant .none, parses_atom rfl (by decide) fun _ _ _ _ => rfl, rfl⟩

theorem reads_bool (b : Bool) :
    Reads [.name (if b then "True" else "False")] (.scalar (.bool b)) := by
  cases b with
  | false => exact ⟨.constant (.bool false), parses_atom rfl (by decide) fun _ _ _ _ => rfl, rfl⟩
  | true => exact ⟨.constant (.bool true), parses_atom rfl (by decide) fun _ _ _ _ => rfl, rfl⟩

theorem reads_text (t : Text) : Reads [.text t] (.scalar (.text t)) :=
  ⟨.constant (.text t), parses_atom rfl (by simp) fun _ _ _ closed => closed.joinQuoted _, rfl⟩

theorem reads_bytes (bs : List UInt8) : Reads [.bytes bs] (.scalar (.bytes bs)) :=
  ⟨.constant (.bytes bs), parses_atom rfl (by simp) fun _ _ _ closed => closed.joinQuoted _, rfl⟩

theorem reads_natural (n : Nat) : Reads [.number (.int n)] (.scalar (.int n)) :=
  ⟨.constant (.int n), parses_atom rfl (by simp) fun _ _ _ _ => rfl, rfl⟩

theorem reads_negative (n : Nat) :
    Reads [.mark '-', .number (.int (n + 1 : Nat))] (.scalar (.int (.negSucc n))) := by
  refine ⟨.signed true (.constant (.int (n + 1 : Nat))), ⟨⟨_, _, rfl, rfl⟩, ?_⟩, rfl⟩
  intro k rest long closed
  obtain ⟨k, rfl⟩ := Nat.exists_eq_add_of_le' long
  apply expression_closed (n := k + 1) rfl _ closed
  apply operand_negative
  exact operand_closed rfl (by simp) rfl closed

/-! ## Runs of elements -/

section

variable {α : Type} {one : Parse α} {close : Parse Bool} {x : α} {xs : List α} {rest : List Token}

theorem elements_none (closed : close ts = some (true, rest)) :
    Parse.elements one close (m + 1) ts = some ([], rest) := by
  rw [Parse.elements]
  simp only [run_bind, run_pure, closed, Option.bind_some, if_true]

theorem elements_last (opened : close ts = some (false, ts)) (taken : one ts = some (x, us))
    (closed : close us = some (true, rest)) :
    Parse.elements one close (m + 1) ts = some ([x], rest) := by
  rw [Parse.elements]
  simp only [run_bind, run_pure, opened, taken, closed, Option.bind_some, Bool.false_eq_true,
    if_false, if_true]

theorem elements_more (opened : close ts = some (false, ts))
    (taken : one ts = some (x, .mark ',' :: us))
    (comma : close (.mark ',' :: us) = some (false, .mark ',' :: us))
    (others : Parse.elements one close m us = some (xs, rest)) :
    Parse.elements one close (m + 1) ts = some (x :: xs, rest) := by
  rw [Parse.elements]
  simp only [run_bind, run_pure, opened, taken, comma, expect_next, others, Option.bind_some,
    Bool.false_eq_true, if_false]

theorem more_none (closed : close ts = some (true, rest)) :
    Parse.more one close n ts = some ([], rest) := by
  rw [Parse.more]
  simp only [run_bind, run_pure, closed, Option.bind_some, if_true]

theorem more_comma (comma : close (.mark ',' :: us) = some (false, .mark ',' :: us))
    (others : Parse.elements one close n us = some (xs, rest)) :
    Parse.more one close n (.mark ',' :: us) = some (xs, rest) := by
  rw [Parse.more]
  simp only [run_bind, comma, expect_next, others, Option.bind_some, Bool.false_eq_true, if_false]

end

/-! ## Elements and entries -/

/-- Tokens of elements with commas between them; `trail` when nothing is left behind the last
    comma. -/
inductive Items : List Token → List Literal → Bool → Prop where
  | none : Items [] [] true
  | last {ts x} : Reads ts x → Items ts [x] false
  | more {ts us x xs trail} : Reads ts x → Items us xs trail →
      Items (ts ++ .mark ',' :: us) (x :: xs) trail

/-- Tokens of entries with commas between them. -/
inductive Entries : List Token → List (Literal × Literal) → Prop where
  | none : Entries [] []
  | last {ts us k v} : Reads ts k → Reads us v → Entries (ts ++ .mark ':' :: us) [(k, v)]
  | more {ts us vs k v es} : Reads ts k → Reads us v → Entries vs es →
      Entries (ts ++ .mark ':' :: (us ++ .mark ',' :: vs)) ((k, v) :: es)

theorem Items.comma {ts xs} (h : Items ts xs false) : Items (ts ++ [.mark ',']) xs true := by
  generalize e : false = trail at h
  induction h with
  | none => cases e
  | last hx => exact .more hx .none
  | more hx _ ih =>
      rw [List.append_assoc]
      exact .more hx (ih e)

theorem accept_mark_next (c : Char) (ts : List Token) :
    acceptMark c (.mark c :: ts) = some (true, ts) := accept_next _ ts

theorem accept_mark_other {c d : Char} (h : d ≠ c) (ts : List Token) :
    acceptMark c (.mark d :: ts) = some (false, .mark d :: ts) := by
  apply accept_not
  rintro t ⟨⟩ e
  cases e
  exact h rfl

theorem accept_mark_begins {c : Char} (hc : .mark c ∈ closers) (h : begins token)
    (ts : List Token) : acceptMark c (token :: ts) = some (false, token :: ts) := by
  apply mark_begins h
  intro known
  simp only [List.mem_cons, List.not_mem_nil, or_false] at known
  rcases known with rfl | rfl | rfl | rfl <;> revert hc <;> decide

namespace Parses

variable {rest : List Token}

/-- An element of brackets, with more than enough steps left. -/
theorem element (h : Parses ts e) (long : ts.length ≤ n) (closed : Closes rest) :
    Parse.element (Parse.descend n) (ts ++ rest) = some (e, rest) := by
  have parsed := h.descend n rest long closed
  obtain ⟨token, us, rfl, begin⟩ := h.start
  rw [List.cons_append] at parsed ⊢
  simp only [Parse.element, named, run_bind, operator_begins begin, assigns_begins begin, parsed,
    Option.bind_some, Bool.false_eq_true, if_false]

/-- Nothing closes in front of an element. -/
theorem accept_mark (h : Parses ts e) {c : Char} (hc : .mark c ∈ closers) (rest : List Token) :
    acceptMark c (ts ++ rest) = some (false, ts ++ rest) := by
  obtain ⟨token, us, rfl, begin⟩ := h.start
  exact accept_mark_begins hc begin _

theorem accept_operator (h : Parses ts e) (t : Text) :
    acceptOperator t (ts ++ rest) = some (false, ts ++ rest) := by
  obtain ⟨token, us, rfl, begin⟩ := h.start
  exact operator_begins begin t

theorem accept_name (h : Parses ts e) {t : Text} (ht : constantNames.contains t = false)
    (rest : List Token) :
    acceptName t (ts ++ rest) = some (false, ts ++ rest) := by
  obtain ⟨token, us, rfl, begin⟩ := h.start
  exact name_begins begin ht

/-- An entry of a dictionary. -/
theorem entry {f : Expression} (hk : Parses ts e) (hv : Parses us f) (key : ts.length ≤ n)
    (value : us.length ≤ n) (closed : Closes rest) :
    Parse.entry (Parse.descend n) (ts ++ .mark ':' :: (us ++ rest)) = some ((e, f), rest) := by
  have first := hk.descend n (.mark ':' :: (us ++ rest)) key (closes_cons (by decide) _)
  have second := hv.descend n rest value closed
  simp only [Parse.entry, run_bind, run_pure, hk.accept_operator, first, expect_next, second,
    Option.bind_some, Bool.false_eq_true, if_false]

end Parses

def closing : List Char := [')', ']', '\x7d']

theorem closing_facts : ∀ c ∈ closing, .mark c ∈ closers ∧ ',' ≠ c := by
  intro c hc
  simp only [closing, List.mem_cons, List.not_mem_nil, or_false] at hc
  obtain rfl | rfl | rfl := hc <;> decide

theorem evaluateAll_cons {es : List Expression} {x : Literal} {xs : List Literal}
    (hx : e.evaluate = .ok x) (hxs : evaluateAll es = .ok xs) :
    evaluateAll (e :: es) = .ok (x :: xs) := by
  rw [evaluateAll, hx, hxs]
  rfl

/-- Elements behind an opening bracket or a comma. -/
theorem Items.elements {xs : List Literal} {trail : Bool} (h : Items ts xs trail) :
    ∃ es, evaluateAll es = .ok xs ∧ ∀ n m c rest, c ∈ closing → ts.length ≤ n → ts.length < m →
      Parse.elements (element (descend n)) (acceptMark c) m (ts ++ .mark c :: rest) =
        some (es, rest) := by
  induction h with
  | none =>
      refine ⟨[], by rw [evaluateAll], fun n m c rest hc long rounds => ?_⟩
      obtain ⟨m, rfl⟩ : ∃ k, m = k + 1 := Nat.exists_eq_succ_of_ne_zero (by omega)
      exact elements_none (accept_mark_next c rest)
  | @last ts x hx =>
      obtain ⟨e, parses, value⟩ := hx
      have none : evaluateAll [] = .ok [] := by rw [evaluateAll]
      refine ⟨[e], evaluateAll_cons value none, fun n m c rest hc long rounds => ?_⟩
      obtain ⟨m, rfl⟩ : ∃ k, m = k + 1 := Nat.exists_eq_succ_of_ne_zero (by omega)
      obtain ⟨closer, -⟩ := closing_facts c hc
      have one := parses.element long (closes_cons closer rest)
      exact elements_last (parses.accept_mark closer _) one (accept_mark_next c rest)
  | @more ts us x xs trail hx _ ih =>
      obtain ⟨e, parses, value⟩ := hx
      obtain ⟨es, values, behind⟩ := ih
      refine ⟨e :: es, evaluateAll_cons value values, fun n m c rest hc long rounds => ?_⟩
      simp only [List.length_append, List.length_cons] at long rounds
      obtain ⟨m, rfl⟩ : ∃ k, m = k + 1 := Nat.exists_eq_succ_of_ne_zero (by omega)
      obtain ⟨closer, comma⟩ := closing_facts c hc
      have one := parses.element (n := n) (by omega)
        (closes_mark (c := ',') (by decide) (us ++ .mark c :: rest))
      rw [List.append_assoc, List.cons_append]
      exact elements_more (parses.accept_mark closer _) one (accept_mark_other comma _)
        (behind n m c rest hc (by omega) (by omega))

/-- What is behind the first of some elements: nothing, or a comma and the others. -/
theorem Items.first {xs : List Literal} {trail : Bool} (h : Items ts xs trail) :
    (ts = [] ∧ xs = [] ∧ trail) ∨
      ∃ u v e es, ts = u ++ v ∧ Parses u e ∧ evaluateAll (e :: es) = .ok xs ∧
        ((v = [] ∧ xs.length = 1 ∧ !trail) ∨ ∃ w, v = .mark ',' :: w) ∧
        ∀ n c rest, c ∈ closing → v.length ≤ n →
          Parse.more (element (descend n)) (acceptMark c) (n + 1) (v ++ .mark c :: rest) =
            some (es, rest) := by
  cases h with
  | none => exact .inl ⟨rfl, rfl, rfl⟩
  | @last ts x hx =>
      obtain ⟨e, parses, value⟩ := hx
      have none : evaluateAll [] = .ok [] := by rw [evaluateAll]
      refine .inr ⟨ts, [], e, [], by simp, parses, evaluateAll_cons value none,
        .inl ⟨rfl, rfl, rfl⟩, fun n c rest _ _ => ?_⟩
      exact more_none (accept_mark_next c rest)
  | @more ts us x xs trail hx others =>
      obtain ⟨e, parses, value⟩ := hx
      obtain ⟨es, values, behind⟩ := others.elements
      refine .inr ⟨ts, .mark ',' :: us, e, es, rfl, parses, evaluateAll_cons value values,
        .inr ⟨us, rfl⟩, fun n c rest hc long => ?_⟩
      obtain ⟨-, comma⟩ := closing_facts c hc
      rw [List.length_cons] at long
      exact more_comma (accept_mark_other comma _)
        (behind n (n + 1) c rest hc (by omega) (by omega))

/-- Behind the first element it is closed. -/
theorem closes_behind {v rest : List Token} {c : Char} (hc : .mark c ∈ closers)
    (h : v = [] ∨ ∃ w, v = .mark ',' :: w) : Closes (v ++ .mark c :: rest) := by
  obtain rfl | ⟨w, rfl⟩ := h
  · exact closes_cons hc rest
  · exact closes_cons (by decide) _

theorem reads_list {xs trail} (h : Items ts xs trail) :
    Reads (.mark '[' :: (ts ++ [.mark ']'])) (.list xs) := by
  obtain ⟨rfl, rfl, -⟩ | ⟨u, v, e, es, rfl, parses, values, comma, behind⟩ := h.first
  · exact ⟨.list [], parses_atom rfl (by decide) fun _ _ _ _ => rfl, by
      rw [evaluate, evaluateAll]; rfl⟩
  · refine ⟨.list (e :: es), parses_atom rfl (by decide) fun n rest long _ => ?_, by
      rw [evaluate, values]; rfl⟩
    simp only [List.length_append, List.length_cons, List.length_nil] at long
    have closed : Closes (v ++ .mark ']' :: rest) :=
      closes_behind (by decide) (comma.imp_left And.left)
    have one := parses.element (n := n) (by omega) closed
    have bracket := parses.accept_mark (c := ']') (by decide) (v ++ .mark ']' :: rest)
    have others := behind n ']' rest (by decide) (by omega)
    change items (descend n) (n + 1) ((u ++ v ++ [.mark ']']) ++ rest) = _
    simp only [List.append_assoc, List.singleton_append, items, run_bind, run_pure, bracket, one,
      closed.clauses, others, Option.bind_some, Bool.false_eq_true, if_false]

/-- Parentheses make a tuple when there is a comma in them, or nothing. -/
theorem reads_tuple {xs trail} (h : Items ts xs trail) (hc : trail ∨ 2 ≤ xs.length) :
    Reads (.mark '(' :: (ts ++ [.mark ')'])) (.tuple xs) := by
  obtain ⟨rfl, rfl, -⟩ | ⟨u, v, e, es, rfl, parses, values, comma, behind⟩ := h.first
  · exact ⟨.tuple [], parses_atom rfl (by decide) fun _ _ _ _ => rfl, by
      rw [evaluate, evaluateAll]; rfl⟩
  · refine ⟨.tuple (e :: es), parses_atom rfl (by decide) fun n rest long _ => ?_, by
      rw [evaluate, values]; rfl⟩
    obtain ⟨-, single, open'⟩ | ⟨w, rfl⟩ := comma
    · simp only [Bool.not_eq_true'] at open'
      simp [single, open'] at hc
    simp only [List.length_append, List.length_cons, List.length_nil] at long
    have closed : Closes (.mark ',' :: w ++ .mark ')' :: rest) := closes_cons (by decide) _
    have one := parses.element (n := n) (by omega) closed
    have bracket := parses.accept_mark (c := ')') (by decide)
      (.mark ',' :: w ++ .mark ')' :: rest)
    have yields := parses.accept_name (t := "yield") (by decide)
      (.mark ',' :: w ++ .mark ')' :: rest)
    have another := accept_mark_other (c := ')') (d := ',') (by decide) (w ++ .mark ')' :: rest)
    have others := behind n ')' rest (by decide) (by simp; omega)
    change group (descend n) (n + 1) ((u ++ .mark ',' :: w ++ [.mark ')']) ++ rest) = _
    simp only [List.append_assoc, List.cons_append, List.nil_append] at *
    simp only [group, run_bind, run_pure, bracket, yields, one, closed.clauses, another, others,
      Option.bind_some, Bool.false_eq_true, if_false]

/-! ## Dictionaries -/

theorem insertEntry_new {es : List (Literal × Literal)} {k v : Literal}
    (h : ∀ e ∈ es, sameKey e.1 k = false) : insertEntry es k v = es ++ [(k, v)] := by
  induction es with
  | nil => rfl
  | cons e es ih =>
      have rest := ih fun f hf => h f (by simp [hf])
      simp [insertEntry, h e (by simp), rest]

/-- Entries that a dictionary may hold: keys that can be looked up, no two of them the same. -/
structure Keyed (es : List (Literal × Literal)) : Prop where
  hashable : ∀ e ∈ es, e.1.hashable
  distinct : es.Pairwise fun e f => sameKey e.1 f.1 = false

theorem Keyed.insertEntry {es fs : List (Literal × Literal)} {k v : Literal}
    (h : Keyed (es ++ (k, v) :: fs)) : insertEntry es k v = es ++ [(k, v)] :=
  insertEntry_new fun e he => (List.pairwise_append.mp h.distinct).2.2 e he (k, v) (by simp)

/-- Expressions that come to the entries of a dictionary, behind those that it has. -/
def Evaluates (fs : List (Expression × Expression)) (es : List (Literal × Literal)) : Prop :=
  ∀ before, Keyed (before ++ es) → evaluateEntries before fs = .ok (before ++ es)

theorem evaluates_cons {e f : Expression} {k v : Literal} {fs : List (Expression × Expression)}
    {es : List (Literal × Literal)} (hk : e.evaluate = .ok k) (hv : f.evaluate = .ok v)
    (h : Evaluates fs es) : Evaluates ((e, f) :: fs) ((k, v) :: es) := by
  intro before keyed
  have hashable : k.hashable := keyed.hashable (k, v) (by simp)
  have others := h (before ++ [(k, v)]) (by simpa using keyed)
  rw [List.append_assoc, List.singleton_append] at others
  rw [evaluateEntries, hk, hv]
  simp only [bind, Except.bind, hashable, if_true, keyed.insertEntry, others]

theorem evaluates_nil : Evaluates [] [] := by
  intro before _
  rw [evaluateEntries, List.append_nil]

theorem Entries.elements {es : List (Literal × Literal)} (h : Entries ts es) :
    ∃ fs, Evaluates fs es ∧ ∀ n m rest, ts.length ≤ n → ts.length < m →
      Parse.elements (entry (descend n)) (acceptMark '\x7d') m (ts ++ .mark '\x7d' :: rest) =
        some (fs, rest) := by
  induction h with
  | none =>
      refine ⟨[], evaluates_nil, fun n m rest long rounds => ?_⟩
      obtain ⟨m, rfl⟩ : ∃ k, m = k + 1 := Nat.exists_eq_succ_of_ne_zero (by omega)
      exact elements_none (accept_mark_next '\x7d' rest)
  | @last ts us k v hk hv =>
      obtain ⟨e, key, hk⟩ := hk
      obtain ⟨f, value, hv⟩ := hv
      refine ⟨[(e, f)], evaluates_cons hk hv evaluates_nil, fun n m rest long rounds => ?_⟩
      simp only [List.length_append, List.length_cons] at long rounds
      obtain ⟨m, rfl⟩ : ∃ k, m = k + 1 := Nat.exists_eq_succ_of_ne_zero (by omega)
      have one := key.entry value (n := n) (by omega) (by omega)
        (closes_mark (c := '\x7d') (by decide) rest)
      rw [List.append_assoc, List.cons_append]
      exact elements_last (key.accept_mark (by decide) _) one (accept_mark_next '\x7d' rest)
  | @more ts us vs k v es hk hv _ ih =>
      obtain ⟨e, key, hk⟩ := hk
      obtain ⟨f, value, hv⟩ := hv
      obtain ⟨fs, values, behind⟩ := ih
      refine ⟨(e, f) :: fs, evaluates_cons hk hv values, fun n m rest long rounds => ?_⟩
      simp only [List.length_append, List.length_cons] at long rounds
      obtain ⟨m, rfl⟩ : ∃ k, m = k + 1 := Nat.exists_eq_succ_of_ne_zero (by omega)
      have one := key.entry value (n := n) (by omega) (by omega)
        (closes_mark (c := ',') (by decide) (vs ++ .mark '\x7d' :: rest))
      simp only [List.append_assoc, List.cons_append]
      exact elements_more (key.accept_mark (by decide) _) one (accept_mark_other (by decide) _)
        (behind n m rest (by omega) (by omega))

/-- The first entry between braces, with others behind it or not. -/
theorem braces_entry {e f : Expression} {k : Literal} {fs : List (Expression × Expression)}
    {v rest : List Token} (hk : Parses ts e) (key : ts.length ≤ n) (hv : Parses us f)
    (value : us.length ≤ n) (known : e.evaluate = .ok k) (closed : Closes v)
    (others : Parse.more (entry (descend n)) (acceptMark '\x7d') (n + 1) v = some (fs, rest)) :
    braces (descend n) (n + 1) (ts ++ .mark ':' :: (us ++ v)) =
      some (.dict ((e, f) :: fs), rest) := by
  have first := hk.element key (closes_mark (c := ':') (by decide) (us ++ v))
  have second := hv.descend n v value closed
  have bracket := hk.accept_mark (c := '\x7d') (by decide) (.mark ':' :: (us ++ v))
  have behind : entries (descend n) (n + 1) e (us ++ v) = some (.dict ((e, f) :: fs), rest) := by
    simp only [entries, run_bind, run_pure, second, closed.clauses, others, Option.bind_some,
      Bool.false_eq_true, if_false]
  rw [← behind, braces]
  simp only [run_bind, bracket, hk.accept_operator, first, accept_mark_next, Option.bind_some,
    Bool.false_eq_true, if_false, if_true]
  cases e with
  | starred _ => simp [evaluate] at known
  | assigned => simp [evaluate] at known
  | _ => rfl

theorem reads_dict {es : List (Literal × Literal)} (h : Entries ts es) (hk : Keyed es) :
    Reads (.mark '\x7b' :: (ts ++ [.mark '\x7d'])) (.dict es) := by
  have come : ∀ {fs}, Evaluates fs es → (Expression.dict fs).evaluate = .ok (.dict es) := by
    intro fs values
    rw [evaluate, values [] hk]
    rfl
  cases h with
  | none => exact ⟨.dict [], parses_atom rfl (by decide) fun _ _ _ _ => rfl, come evaluates_nil⟩
  | @last ts us k v key value =>
      obtain ⟨e, key, known⟩ := key
      obtain ⟨f, value, second⟩ := value
      refine ⟨.dict [(e, f)], parses_atom rfl (by decide) fun n rest long _ => ?_,
        come (evaluates_cons known second evaluates_nil)⟩
      simp only [List.length_append, List.length_cons] at long
      have nothing : Parse.more (entry (descend n)) (acceptMark '\x7d') (n + 1)
          (.mark '\x7d' :: rest) = some ([], rest) := more_none (accept_mark_next _ rest)
      change braces (descend n) (n + 1) ((ts ++ .mark ':' :: us ++ [.mark '\x7d']) ++ rest) = _
      simp only [List.append_assoc, List.cons_append, List.nil_append]
      exact braces_entry key (by omega) value (by omega) known (closes_cons (by decide) rest)
        nothing
  | @more ts us vs k v es key value others =>
      obtain ⟨e, key, known⟩ := key
      obtain ⟨f, value, second⟩ := value
      obtain ⟨fs, values, behind⟩ := others.elements
      refine ⟨.dict ((e, f) :: fs), parses_atom rfl (by decide) fun n rest long _ => ?_,
        come (evaluates_cons known second values)⟩
      simp only [List.length_append, List.length_cons] at long
      have further : Parse.more (entry (descend n)) (acceptMark '\x7d') (n + 1)
          (.mark ',' :: (vs ++ .mark '\x7d' :: rest)) = some (fs, rest) :=
        more_comma (accept_mark_other (by decide) _) (behind n (n + 1) rest (by omega) (by omega))
      change braces (descend n) (n + 1)
        ((ts ++ .mark ':' :: (us ++ .mark ',' :: vs) ++ [.mark '\x7d']) ++ rest) = _
      simp only [List.append_assoc, List.cons_append, List.nil_append]
      exact braces_entry key (by omega) value (by omega) known (closes_cons (by decide) _) further

/-! ## Whole texts -/

theorem Reads.ne_nil (h : Reads ts l) : ts ≠ [] := by
  obtain ⟨e, parses, -⟩ := h
  obtain ⟨token, us, rfl, -⟩ := parses.start
  exact List.cons_ne_nil token us

/-- Tokens that make up one literal, and nothing else, are read as it. -/
theorem Reads.whole (h : Reads ts l) :
    ∃ e, Parse.whole (ts.length + 1) ts = some (e, []) ∧ e.evaluate = .ok l := by
  obtain ⟨e, parses, value⟩ := h
  have parsed := parses.descend (ts.length + 1) [] (Nat.le_succ _) (by simp [Closes])
  rw [List.append_nil] at parsed
  refine ⟨e, ?_, value⟩
  simp [Parse.whole, run_bind, run_pure, parsed, atEnd]

end Stencil.Literal

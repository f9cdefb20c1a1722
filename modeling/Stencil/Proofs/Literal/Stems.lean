import Mathlib.Data.List.Basic
import Stencil.Literal.Parse

/-! # Where the numbers of an expression come from

Every parser leaves a part of the tokens that it was given, and the numbers of
what it parses are among those that it was given. Both are said of all parsers at
once: they are kept along binds, choices and runs, so each part of an expression
inherits them from its own parts.
-/

namespace Stencil.Literal

open Parse

/-- A number that is among the tokens, if it may be a part of a sum out of range. -/
def FromToken (ts : List Token) : Scalar → Prop
  | .int i => .number (.int i) ∈ ts
  | .complex re im => .number (.complex re im) ∈ ts
  | _ => True

/-- Expressions that come to nothing that is made of numbers. -/
def Expression.inert : Expression → Bool
  | name _ | access | emptySet | starred _ | assigned | other => true
  | _ => false

/-- The numbers of an expression are among the tokens. -/
inductive Stems (ts : List Token) : Expression → Prop where
  | constant {s} : FromToken ts s → Stems ts (.constant s)
  | signed {negative e} : Stems ts e → Stems ts (.signed negative e)
  | sum {e negative f} : Stems ts e → Stems ts f → Stems ts (.sum e negative f)
  | tuple {es} : (∀ e ∈ es, Stems ts e) → Stems ts (.tuple es)
  | list {es} : (∀ e ∈ es, Stems ts e) → Stems ts (.list es)
  | set {es} : (∀ e ∈ es, Stems ts e) → Stems ts (.set es)
  | dict {es} : (∀ k v, (k, v) ∈ es → Stems ts k) → (∀ k v, (k, v) ∈ es → Stems ts v) →
      Stems ts (.dict es)
  | inert {e} : e.inert → Stems ts e

/-- A parser that leaves a part of the tokens and parses only what has a property. -/
structure Keeps {α : Type} (ts : List Token) (P : α → Prop) (p : Parse α) : Prop where
  run : ∀ {us vs x}, us ⊆ ts → p us = some (x, vs) → vs ⊆ ts ∧ P x

/-- A parser that leaves a part of the tokens. -/
abbrev Passes {α : Type} (ts : List Token) (p : Parse α) : Prop := Keeps ts (fun _ => True) p

variable {α β : Type} {ts : List Token} {P : α → Prop} {Q : β → Prop} {p q : Parse α}
  {token : Token} {e : Expression}

/-! ## Binds, choices and runs -/

theorem keeps_pure {x : α} (h : P x) : Keeps ts P (pure x) where
  run part taken := by
    cases taken
    exact ⟨part, h⟩

theorem keeps_fail : Keeps ts P fail where
  run _ taken := by cases taken

theorem keeps_bind {f : α → Parse β} (hp : Keeps ts P p) (hf : ∀ x, P x → Keeps ts Q (f x)) :
    Keeps ts Q (p >>= f) where
  run part taken := by
    obtain ⟨⟨x, ws⟩, first, second⟩ := Option.bind_eq_some_iff.mp taken
    obtain ⟨left, value⟩ := hp.run part first
    exact (hf x value).run left second

theorem keeps_after {q : Parse β} (hp : Keeps ts P p) (hq : Keeps ts Q q) :
    Keeps ts Q (p >>= fun _ => q) := keeps_bind hp fun _ _ => hq

theorem keeps_if {c : Prop} [Decidable c] (hp : Keeps ts P p) (hq : Keeps ts P q) :
    Keeps ts P (if c then p else q) := by
  split
  · exact hp
  · exact hq

theorem keeps_test {c : Parse Bool} (hc : Passes ts c) (hp : Keeps ts P p) (hq : Keeps ts P q) :
    Keeps ts P (c >>= fun b => if b = true then p else q) := keeps_bind hc fun _ _ => keeps_if hp hq

theorem Keeps.passes (h : Keeps ts P p) : Passes ts p where
  run part taken := ⟨(h.run part taken).1, trivial⟩

/-- A parser that leaves the end of what it is given. -/
theorem passes_of_suffix (h : ∀ us x vs, p us = some (x, vs) → vs <:+ us) : Passes ts p where
  run part taken := ⟨fun _ ht => part ((h _ _ _ taken).subset ht), trivial⟩

theorem passes_accept (token : Token) : Passes ts (accept token) := by
  apply passes_of_suffix
  intro us x vs taken
  unfold accept at taken
  split at taken
  · cases taken
    exact List.suffix_rfl
  · split at taken
    · cases taken
      exact List.suffix_cons _ _
    · cases taken
      exact List.suffix_rfl

theorem passes_mark (c : Char) : Passes ts (acceptMark c) := passes_accept _

theorem passes_name (t : Text) : Passes ts (acceptName t) := passes_accept _

theorem passes_operator (t : Text) : Passes ts (acceptOperator t) := passes_accept _

theorem passes_expect (token : Token) : Passes ts (expect token) :=
  keeps_test (passes_accept token) (keeps_pure trivial) keeps_fail

theorem passes_atEnd : Passes ts atEnd := by
  apply passes_of_suffix
  intro us x vs taken
  cases taken
  exact List.suffix_rfl

theorem passes_before (marks : List Char) : Passes ts (before marks) := by
  apply passes_of_suffix
  intro us x vs taken
  cases taken
  exact List.suffix_rfl

theorem passes_identifier : Passes ts identifier := by
  apply passes_of_suffix
  intro us x vs taken
  unfold identifier at taken
  split at taken
  · split at taken <;> cases taken
    exact List.suffix_cons _ _
  · cases taken

theorem passes_assigns (o : Text) : Passes ts (assigns o) := by
  apply passes_of_suffix
  intro us x vs taken
  unfold assigns at taken
  split at taken
  · split at taken <;> cases taken
    · exact (List.suffix_cons _ _).trans (List.suffix_cons _ _)
    · exact List.suffix_rfl
  · cases taken
    exact List.suffix_rfl

theorem passes_operation : Passes ts operation := by
  apply passes_of_suffix
  intro us x vs taken
  unfold operation at taken
  split at taken
  · split at taken
    · cases taken
      exact List.suffix_cons _ _
    · split at taken <;> cases taken
      · exact List.suffix_cons _ _
      · exact List.suffix_rfl
  · split at taken <;> cases taken
    · exact List.suffix_cons _ _
    · exact List.suffix_rfl
  · cases taken
    exact List.suffix_rfl

theorem passes_relation : Passes ts relation := by
  refine keeps_test (passes_name _) ?_ (keeps_test (passes_name _) (keeps_pure trivial) ?_)
  · exact keeps_after (passes_name _) (keeps_pure trivial)
  · apply passes_of_suffix
    intro us x vs taken
    split at taken
    · split at taken <;> cases taken
      · exact List.suffix_cons _ _
      · exact List.suffix_rfl
    · split at taken <;> cases taken
      · exact (List.suffix_cons _ _).trans (List.suffix_cons _ _)
      · exact List.suffix_rfl
    · cases taken
      exact List.suffix_rfl

theorem keeps_elements {close : Parse Bool} (hc : Passes ts close) (hp : Keeps ts P p) (n : Nat) :
    Keeps ts (fun xs => ∀ x ∈ xs, P x) (elements p close n) := by
  induction n with
  | zero => exact keeps_fail
  | succ n ih =>
      refine keeps_test hc (keeps_pure (by simp)) (keeps_bind hp fun x hx => ?_)
      refine keeps_test hc (keeps_pure (by simpa using hx)) ?_
      refine keeps_after (passes_expect _) (keeps_bind ih fun xs hxs => ?_)
      exact keeps_pure (List.forall_mem_cons.mpr ⟨hx, hxs⟩)

theorem keeps_more {close : Parse Bool} (hc : Passes ts close) (hp : Keeps ts P p) (n : Nat) :
    Keeps ts (fun xs => ∀ x ∈ xs, P x) (more p close n) :=
  keeps_test hc (keeps_pure (by simp)) (keeps_after (passes_expect _) (keeps_elements hc hp n))

theorem passes_more {close : Parse Bool} (hc : Passes ts close) (hp : Passes ts p) (n : Nat) :
    Passes ts (more p close n) := (keeps_more hc hp n).passes

/-! ## Quoted text -/

theorem joinQuoted_stems {us vs : List Token} {f : Expression} (h : Stems ts e) (part : us ⊆ ts)
    (taken : joinQuoted e us = some (f, vs)) : vs ⊆ ts ∧ Stems ts f := by
  fun_induction joinQuoted e us with
  | case1 us t u ih => exact ih (.constant trivial) (List.cons_subset.mp part).2 taken
  | case2 us t ih => exact ih (.inert rfl) (List.cons_subset.mp part).2 taken
  | case4 us bs cs ih => exact ih (.constant trivial) (List.cons_subset.mp part).2 taken
  | case7 e us _ ih => exact ih (.inert rfl) (List.cons_subset.mp part).2 taken
  | case8 e us =>
      cases taken
      exact ⟨part, h⟩
  | case3 | case5 | case6 => cases taken

/-! ## Parts of expressions -/

section

variable {inner : Rank → Parse Expression} {n : Nat}
  (hi : ∀ rank, Keeps ts (Stems ts) (inner rank))

include hi

theorem passes_skip (rank : Rank) : Passes ts (skip inner rank) :=
  keeps_after (hi rank) (keeps_pure trivial)

theorem keeps_named : Keeps ts (Stems ts) (named inner) :=
  keeps_test (passes_assigns _) (keeps_after (passes_skip hi _) (keeps_pure (.inert rfl))) (hi _)

theorem keeps_element : Keeps ts (Stems ts) (element inner) :=
  keeps_test (passes_operator _) (keeps_bind (hi _) fun _ _ => keeps_pure (.inert rfl))
    (keeps_named hi)

theorem keeps_entry : Keeps ts (fun e => Stems ts e.1 ∧ Stems ts e.2) (entry inner) := by
  refine keeps_test (passes_operator _) ?_ (keeps_bind (hi _) fun k hk => ?_)
  · exact keeps_after (passes_skip hi _) (keeps_pure ⟨.inert rfl, .inert rfl⟩)
  · refine keeps_after (passes_expect _) (keeps_bind (hi _) fun v hv => ?_)
    exact keeps_pure ⟨hk, hv⟩

theorem passes_targets (m : Nat) : Passes ts (targets inner m) := by
  induction m with
  | zero => exact keeps_fail
  | succ m ih =>
      refine keeps_after (passes_operator _) (keeps_bind (hi _) fun e _ => ?_)
      refine keeps_if (keeps_test (passes_mark _) ?_ (passes_expect _)) keeps_fail
      exact keeps_test (passes_name _) (keeps_pure trivial) ih

theorem passes_conditions (m : Nat) : Passes ts (conditions inner m) := by
  induction m with
  | zero => exact keeps_fail
  | succ m ih =>
      exact keeps_test (passes_name _) (keeps_after (passes_skip hi _) ih) (keeps_pure trivial)

theorem passes_clauses (m : Nat) : Passes ts (clauses inner m) := by
  induction m with
  | zero => exact keeps_fail
  | succ m ih =>
      refine keeps_bind (passes_name _) fun waits _ => keeps_test (passes_name _) ?_ ?_
      · refine keeps_after (passes_targets hi m) (keeps_after (passes_skip hi _) ?_)
        exact keeps_after (passes_conditions hi m) (keeps_after ih (keeps_pure trivial))
      · exact keeps_if keeps_fail (keeps_pure trivial)

omit hi in
theorem keeps_enclosed (h : Stems ts e) : Keeps ts (Stems ts) (enclosed e) := by
  unfold enclosed
  split
  · exact keeps_fail
  · exact keeps_pure (.inert rfl)
  · exact keeps_pure h

theorem passes_yieldedItem : Passes ts (yieldedItem inner) :=
  keeps_test (passes_operator _) (passes_skip hi _) (passes_skip hi _)

theorem keeps_yielded : Keeps ts (Stems ts) (yielded inner n) := by
  have other : Keeps ts (Stems ts) (pure .other) := keeps_pure (.inert rfl)
  refine keeps_test (passes_name _) ?_ (keeps_test (passes_mark _) other ?_)
  · exact keeps_after (passes_skip hi _) (keeps_after (passes_expect _) other)
  · have values : Passes ts (more (yieldedItem inner) (acceptMark ')') n) :=
      passes_more (passes_mark _) (passes_yieldedItem hi) n
    exact keeps_after (passes_yieldedItem hi) (keeps_after values other)

omit hi in
/-- What closes a comprehension is no literal. -/
theorem keeps_comprehension (h : Stems ts e) (token : Token) :
    Keeps ts (Stems ts) (do let _ ← enclosed e; expect token; pure .other) :=
  keeps_after (keeps_enclosed h) (keeps_after (passes_expect token) (keeps_pure (.inert rfl)))

theorem keeps_group : Keeps ts (Stems ts) (group inner n) := by
  refine keeps_test (passes_mark _) (keeps_pure (.tuple (by simp))) ?_
  refine keeps_test (passes_name _) (keeps_yielded hi) (keeps_bind (keeps_element hi) fun e he => ?_)
  refine keeps_test (passes_clauses hi n) (keeps_comprehension he _) ?_
  refine keeps_test (passes_mark _) (keeps_enclosed he) ?_
  refine keeps_bind (keeps_more (passes_mark _) (keeps_element hi) n) fun es hes => ?_
  exact keeps_pure (.tuple (List.forall_mem_cons.mpr ⟨he, hes⟩))

theorem keeps_items : Keeps ts (Stems ts) (items inner n) := by
  refine keeps_test (passes_mark _) (keeps_pure (.list (by simp))) ?_
  refine keeps_bind (keeps_element hi) fun e he => ?_
  refine keeps_test (passes_clauses hi n) (keeps_comprehension he _) ?_
  refine keeps_bind (keeps_more (passes_mark _) (keeps_element hi) n) fun es hes => ?_
  exact keeps_pure (.list (List.forall_mem_cons.mpr ⟨he, hes⟩))

omit hi in
theorem stems_dict {k v : Expression} {es : List (Expression × Expression)} (hk : Stems ts k)
    (hv : Stems ts v) (h : ∀ e ∈ es, Stems ts e.1 ∧ Stems ts e.2) :
    Stems ts (.dict ((k, v) :: es)) := by
  have all : ∀ e ∈ (k, v) :: es, Stems ts e.1 ∧ Stems ts e.2 :=
    List.forall_mem_cons.mpr ⟨⟨hk, hv⟩, h⟩
  exact .dict (fun k v known => (all (k, v) known).1) fun k v known => (all (k, v) known).2

theorem keeps_entries (h : Stems ts e) : Keeps ts (Stems ts) (entries inner n e) := by
  refine keeps_bind (hi _) fun v hv => keeps_test (passes_clauses hi n) ?_ ?_
  · exact keeps_after (passes_expect _) (keeps_pure (.inert rfl))
  · refine keeps_bind (keeps_more (passes_mark _) (keeps_entry hi) n) fun es hes => ?_
    exact keeps_pure (stems_dict h hv hes)

theorem keeps_braces : Keeps ts (Stems ts) (braces inner n) := by
  refine keeps_test (passes_mark _) (keeps_pure (.dict (by simp) (by simp))) ?_
  refine keeps_test (passes_operator _) (keeps_after (passes_skip hi _) ?_)
    (keeps_bind (keeps_element hi) fun e he => keeps_test (passes_mark _) ?_ ?_)
  · refine keeps_bind (keeps_more (passes_mark _) (keeps_entry hi) n) fun es hes => ?_
    exact keeps_pure (stems_dict (.inert rfl) (.inert rfl) hes)
  · split
    · exact keeps_fail
    · exact keeps_fail
    · exact keeps_entries hi he
  · refine keeps_test (passes_clauses hi n) (keeps_comprehension he _) ?_
    refine keeps_bind (keeps_more (passes_mark _) (keeps_element hi) n) fun es hes => ?_
    exact keeps_pure (.set (List.forall_mem_cons.mpr ⟨he, hes⟩))

theorem passes_argument : Passes ts (argument inner) := by
  have skipped (x : Argument) : Passes ts (do skip inner .expression; pure x) :=
    keeps_after (passes_skip hi _) (keeps_pure trivial)
  refine keeps_test (passes_operator _) (skipped _) ?_
  refine keeps_test (passes_operator _) (skipped _) ?_
  refine keeps_test (passes_assigns _) (skipped _) ?_
  exact keeps_after (keeps_named hi) (keeps_pure trivial)

theorem passes_argumentClauses (a : Argument) : Passes ts (argumentClauses inner n a) :=
  keeps_if (passes_clauses hi n) (keeps_pure trivial)

theorem passes_arguments : Passes ts (arguments inner n) := by
  refine keeps_bind (passes_argument hi) fun a _ => ?_
  refine keeps_test (passes_argumentClauses hi a) (passes_expect _) ?_
  refine keeps_bind (passes_more (passes_mark _) (passes_argument hi) n) fun as _ => ?_
  exact keeps_if (keeps_pure trivial) keeps_fail

theorem keeps_call (callee : Expression) : Keeps ts (Stems ts) (call inner n callee) := by
  refine keeps_test (passes_mark _) ?_ ?_
  · split
    · apply keeps_pure
      split <;> exact .inert rfl
    · exact keeps_pure (.inert rfl)
  · exact keeps_after (passes_arguments hi) (keeps_pure (.inert rfl))

theorem passes_bound : Passes ts (bound inner) :=
  keeps_test (passes_before _) (keeps_pure trivial) (passes_skip hi _)

theorem passes_bounds : Passes ts (bounds inner) :=
  keeps_after (passes_bound hi)
    (keeps_test (passes_mark _) (passes_bound hi) (keeps_pure trivial))

theorem passes_index : Passes ts (index inner) := by
  refine keeps_test (passes_operator _) (passes_skip hi _) ?_
  refine keeps_test (passes_mark _) (passes_bounds hi) (keeps_bind (keeps_named hi) fun e _ => ?_)
  refine keeps_test (passes_mark _) ?_ (keeps_pure trivial)
  split
  · exact keeps_fail
  · exact passes_bounds hi

theorem keeps_trailers (h : Stems ts e) (m : Nat) :
    Keeps ts (Stems ts) (trailers inner n e m) := by
  induction m generalizing e with
  | zero => exact keeps_fail
  | succ m ih =>
      refine keeps_test (passes_operator _) (keeps_after passes_identifier (ih (.inert rfl))) ?_
      refine keeps_test (passes_mark _) (keeps_bind (keeps_call hi e) fun f hf => ih hf) ?_
      refine keeps_test (passes_mark _) (keeps_after (passes_index hi) ?_) (keeps_pure h)
      exact keeps_after (passes_more (passes_mark _) (passes_index hi) n) (ih (.inert rfl))

omit hi in
theorem keeps_nameValue (t : Text) : Keeps ts (Stems ts) (nameValue t) := by
  have constant {s : Scalar} (h : FromToken ts s) : Keeps ts (Stems ts) (pure (.constant s)) :=
    keeps_pure (.constant h)
  refine keeps_if (constant trivial) (keeps_if (constant trivial) (keeps_if (constant trivial) ?_))
  exact keeps_if keeps_fail (keeps_pure (.inert rfl))

omit hi in
theorem fromToken_number {s : Scalar} (h : .number s ∈ ts) : FromToken ts s := by
  cases s with
  | int i => exact h
  | complex re im => exact h
  | _ => trivial

theorem keeps_atom : Keeps ts (Stems ts) (atom inner n) where
  run {us vs e} part taken := by
    unfold atom at taken
    split at taken
    · cases taken
    · rename_i token us
      obtain ⟨first, others⟩ := List.cons_subset.mp part
      split at taken
      · cases taken
        exact ⟨others, .constant (fromToken_number first)⟩
      · rename_i t
        have quoted : Stems ts (.constant (.text t)) := .constant trivial
        exact joinQuoted_stems quoted others taken
      · rename_i bs
        have quoted : Stems ts (.constant (.bytes bs)) := .constant trivial
        exact joinQuoted_stems quoted others taken
      · exact joinQuoted_stems (.inert rfl) others taken
      · cases taken
        exact ⟨others, .constant trivial⟩
      · exact (keeps_nameValue _).run others taken
      · split at taken
        · exact (keeps_group hi).run others taken
        · split at taken
          · exact (keeps_items hi).run others taken
          · split at taken
            · exact (keeps_braces hi).run others taken
            · cases taken
      · cases taken

theorem keeps_primary : Keeps ts (Stems ts) (primary inner n) :=
  keeps_bind (keeps_atom hi) fun _ he => keeps_trailers hi he n

theorem keeps_operand (m : Nat) : Keeps ts (Stems ts) (operand inner n m) := by
  have other : Keeps ts (Stems ts) (pure .other) := keeps_pure (.inert rfl)
  induction m with
  | zero => exact keeps_fail
  | succ m ih =>
      have signed (negative : Bool) :
          Keeps ts (Stems ts) (do let e ← operand inner n m; pure (.signed negative e)) :=
        keeps_bind ih fun _ he => keeps_pure (.signed he)
      refine keeps_test (passes_mark _) (signed false) ?_
      refine keeps_test (passes_mark _) (signed true) ?_
      refine keeps_test (passes_operator _) (keeps_after ih other) ?_
      exact keeps_test (passes_name _) (keeps_after (keeps_primary hi) other) (keeps_primary hi)

theorem keeps_operations (h : Stems ts e) (m : Nat) :
    Keeps ts (Stems ts) (operations inner n e m) := by
  induction m generalizing e with
  | zero => exact keeps_fail
  | succ m ih =>
      refine keeps_bind passes_operation fun sign _ => ?_
      split
      · exact keeps_pure h
      · refine keeps_bind (keeps_operand hi n) fun f hf => ?_
        split
        · exact ih (.sum h hf)
        · exact ih (.inert rfl)

theorem keeps_arithmetic : Keeps ts (Stems ts) (arithmetic inner n) :=
  keeps_bind (keeps_operand hi n) fun _ he => keeps_operations hi he n

omit hi in
theorem passes_negations (m : Nat) : Passes ts (negations m) := by
  induction m with
  | zero => exact keeps_fail
  | succ m ih =>
      exact keeps_test (passes_name _) (keeps_after ih (keeps_pure trivial)) (keeps_pure trivial)

omit hi in
theorem passes_junction : Passes ts junction :=
  keeps_test (passes_name _) (keeps_pure trivial) (passes_name _)

theorem passes_connected (m : Nat) : Passes ts (connected inner n m) := by
  induction m with
  | zero => exact keeps_fail
  | succ m ih =>
      have further : Passes ts
          (do let _ ← arithmetic inner n; let _ ← connected inner n m; pure true) :=
        keeps_after (keeps_arithmetic hi) (keeps_after ih (keeps_pure trivial))
      refine keeps_test passes_junction (keeps_after (passes_negations n) further) ?_
      exact keeps_test passes_relation further (keeps_pure trivial)

theorem keeps_disjunction : Keeps ts (Stems ts) (disjunction inner n) := by
  refine keeps_bind (passes_negations n) fun negated _ => ?_
  refine keeps_bind (keeps_arithmetic hi) fun e he => ?_
  refine keeps_bind (passes_connected hi n) fun more _ => keeps_pure ?_
  split
  · exact .inert rfl
  · exact he

theorem passes_parameter : Passes ts (parameter inner) := by
  have named (x : Parameter) : Passes ts (do let _ ← identifier; pure x) :=
    keeps_after passes_identifier (keeps_pure trivial)
  refine keeps_test (passes_operator _) (named _) (keeps_test (passes_operator _) ?_ ?_)
  · exact keeps_test (passes_before _) (keeps_pure trivial) (named _)
  · refine keeps_test (passes_operator _) (keeps_pure trivial) ?_
    refine keeps_test (passes_assigns _) ?_ (named _)
    exact keeps_after (passes_skip hi _) (keeps_pure trivial)

theorem passes_parameters : Passes ts (parameters inner n) := by
  refine keeps_test (passes_mark _) (keeps_pure trivial) ?_
  refine keeps_bind (passes_parameter hi) fun p _ => ?_
  refine keeps_bind (passes_more (passes_mark _) (passes_parameter hi) n) fun ps _ => ?_
  exact keeps_if (keeps_pure trivial) keeps_fail

theorem keeps_expression : Keeps ts (Stems ts) (expression inner n) := by
  have other : Keeps ts (Stems ts) (do skip inner .expression; pure .other) :=
    keeps_after (passes_skip hi _) (keeps_pure (.inert rfl))
  refine keeps_test (passes_name _) (keeps_after (passes_parameters hi) other) ?_
  refine keeps_bind (keeps_disjunction hi) fun e he => keeps_test (passes_name _) ?_ (keeps_pure he)
  exact keeps_after (passes_skip hi _) (keeps_after (passes_expect _) other)

theorem keeps_step (rank : Rank) : Keeps ts (Stems ts) (step inner n rank) := by
  cases rank with
  | expression => exact keeps_expression hi
  | disjunction => exact keeps_disjunction hi
  | arithmetic => exact keeps_arithmetic hi
  | primary => exact keeps_primary hi

end

/-! ## Whole texts -/

theorem keeps_descend (n : Nat) : ∀ rank, Keeps ts (Stems ts) (descend n rank) := by
  induction n with
  | zero => exact fun _ => keeps_fail
  | succ n ih => exact keeps_step ih

/-- The numbers of what all tokens are parsed as are among them. -/
theorem whole_stems {n : Nat} {vs : List Token} (h : whole n ts = some (e, vs)) : Stems ts e := by
  have parsed : Keeps ts (Stems ts) (whole n) := by
    refine keeps_bind (keeps_descend n _) fun e he => ?_
    refine keeps_test passes_atEnd (keeps_pure he) ?_
    refine keeps_bind (keeps_more passes_atEnd (keeps_descend n _) n) fun es hes => ?_
    exact keeps_pure (.tuple (List.forall_mem_cons.mpr ⟨he, hes⟩))
  exact (parsed.run (List.Subset.refl ts) h).2

end Stencil.Literal

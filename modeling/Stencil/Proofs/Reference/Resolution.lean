import Stencil.Reference.Resolve

/-! # How resolving ends

A reference is followed one step after the other until one fails. What a step does
to the objects is said here apart from what its failure means: a missing attribute,
a missing item and something that cannot be called make the reference unresolved,
and every other fault comes out as it was raised. Whatever a call raises is among
the others.
-/

namespace Stencil

/-- The argument a head names. -/
def Arguments.argument? (a : Arguments) : Head → Option Value
  | .index n => a.positional[n]?
  | .name t => a.named.lookup t

/-- What is said of a head that names no argument. -/
def Arguments.absence (a : Arguments) : Head → UnresolvedFault
  | .index n => .noPosition n a.positional.length
  | .name t => .noKeyword t

namespace Step

/-- Why a step gives no value. -/
inductive Stop where
  /-- It is a call of what cannot be called. -/
  | notCallable
  | raised (f : Fault)

/-- What a step does to the objects. -/
def effect (v : Value) : Step → Act Value
  | .attribute name => Store.readAttribute v name
  | .item key => do
      let k ← build key
      Store.readItem v k
  | .call arguments => do
      let ls ← Act.orFail .badType (spread? arguments)
      let vs ← buildAll ls
      Method.call v vs

/-- Whether a step can be taken at all. -/
def Applies (s : Store) (v : Value) : Step → Prop
  | .call _ => s.callable v
  | _ => True

/-- A step taken from a value in a store, with what comes of it and the store that it leaves. -/
inductive Taken (s : Store) (v : Value) : Step → Except Stop Value → Store → Prop where
  | given {step x t} : Applies s v step → (effect v step).run s = (.ok x, t) →
      Taken s v step (.ok x) t
  | raised {step f t} : Applies s v step → (effect v step).run s = (.error f, t) →
      Taken s v step (.error (.raised f)) t
  | notCallable {arguments} : ¬ s.callable v → Taken s v (.call arguments) (.error .notCallable) s

/-- Steps taken from the left, each once, from the value and in the store that the one before it
    left. -/
inductive Passed : List Step → Store → Value → Store → Value → Prop where
  | nil {s v} : Passed [] s v s v
  | cons {step steps s v t x u y} : Taken s v step (.ok x) t → Passed steps t x u y →
      Passed (step :: steps) s v u y

/-- The stops that leave a reference unresolved, with what is said of each. -/
inductive Unresolves (s : Store) (v : Value) : Step → Stop → UnresolvedFault → Prop where
  | attribute {name f} : f.kind = .missingAttribute →
      Unresolves s v (.attribute name) (.raised f) (.noAttribute (v.typeName s) name)
  | item {key f} : f.kind ∈ [.missingKey, .badIndex, .badType] →
      Unresolves s v (.item key) (.raised f) (.noItem key (v.typeName s) f.kind)
  | call {arguments} :
      Unresolves s v (.call arguments) .notCallable (.notCallable (v.typeName s))

/-- The faults that come out as they were raised. For a call these are all. -/
inductive Propagates (f : Fault) : Step → Prop where
  | attribute {name} : f.kind ≠ .missingAttribute → Propagates f (.attribute name)
  | item {key} : f.kind ∉ [.missingKey, .badIndex, .badType] → Propagates f (.item key)
  | call {arguments} : Propagates f (.call arguments)

end Step

namespace Reference

open Step

/-- The first step that fails, the store and the value it is taken from, why it stops, and the store
    it leaves. -/
inductive StopsAt (r : Reference) (a : Arguments) (s : Store) :
    Step → Store → Value → Stop → Store → Prop where
  | first {v before step after s' x stop t} : a.argument? r.head = some v →
      r.steps = before ++ step :: after → Passed before s v s' x →
      Taken s' x step (.error stop) t → StopsAt r a s step s' x stop t

/-- What resolving a reference gives, and the store it leaves. -/
inductive Resolved (r : Reference) (a : Arguments) (s : Store) :
    Except Failure Value → Store → Prop where
  | value {v t x} : a.argument? r.head = some v → Passed r.steps s v t x → Resolved r a s (.ok x) t
  | absent : a.argument? r.head = none →
      Resolved r a s (.error (.unresolved (a.absence r.head) r.text)) s
  | unresolved {step s' x stop t fault} : StopsAt r a s step s' x stop t →
      Unresolves s' x step stop fault → Resolved r a s (.error (.unresolved fault r.text)) t
  | raised {step s' x f t} : StopsAt r a s step s' x (.raised f) t → Propagates f step →
      Resolved r a s (.error (.fault f)) t

end Reference

/-! ## Single steps -/

namespace Step

variable {text : Text} {step : Step} {v x : Value} {w : World} {t : Store}

/-- What a fault of a step comes out as. -/
def explain (text : Text) (typeName : Text) : Step → Fault → Failure
  | .attribute name, f =>
      if f.kind = .missingAttribute then .unresolved (.noAttribute typeName name) text else .fault f
  | .item key, f =>
      if isMissingItem f.kind then .unresolved (.noItem key typeName f.kind) text else .fault f
  | .call _, f => .fault f

theorem isMissingItem_iff (k : FaultKind) :
    isMissingItem k ↔ k ∈ [.missingKey, .badIndex, .badType] := by
  simp [isMissingItem, or_assoc]

theorem take_applies (h : Applies w.store v step) :
    (step.take text v).run w =
      (((effect v step).run w.store).1.mapError (explain text (v.typeName w.store) step),
        { w with store := ((effect v step).run w.store).2 }) := by
  cases step with
  | «attribute» name => rfl
  | item key => rfl
  | call arguments =>
      have callable : w.store.callable v := h
      change (ite _ (Run.ofAct .fault (effect v (.call arguments))) _ : Run Value).run w = _
      rw [if_pos callable]
      rfl

theorem take_notCallable {arguments : Literal} (h : ¬ w.store.callable v) :
    (take text (.call arguments) v).run w =
      (.error (.unresolved (.notCallable (v.typeName w.store)) text), w) := by
  change (ite _ _ (throw _) : Run Value).run w = _
  rw [if_neg h]
  rfl

theorem take_given (h : Taken w.store v step (.ok x) t) :
    (step.take text v).run w = (.ok x, { w with store := t }) := by
  cases h with
  | given applies ran =>
      rw [take_applies applies, ran]
      rfl

theorem take_failing {f : Fault} (applies : Applies w.store v step)
    (ran : (effect v step).run w.store = (.error f, t)) : (step.take text v).run w =
      (.error (explain text (v.typeName w.store) step f), { w with store := t }) := by
  rw [take_applies applies, ran]
  rfl

theorem take_unresolved {stop : Stop} {fault : UnresolvedFault}
    (h : Taken w.store v step (.error stop) t) (unresolves : Unresolves w.store v step stop fault) :
    (step.take text v).run w = (.error (.unresolved fault text), { w with store := t }) := by
  cases unresolves with
  | «attribute» missing =>
      cases h with
      | raised applies ran => rw [take_failing applies ran, explain, if_pos missing]
  | item missing =>
      cases h with
      | raised applies ran =>
          have found := (isMissingItem_iff _).mpr missing
          rw [take_failing applies ran, explain, if_pos found]
  | call =>
      cases h with
      | notCallable refused => exact take_notCallable refused

theorem take_raised {f : Fault} (h : Taken w.store v step (.error (.raised f)) t)
    (propagates : Propagates f step) :
    (step.take text v).run w = (.error (.fault f), { w with store := t }) := by
  cases h with
  | raised applies ran =>
      rw [take_failing applies ran]
      cases propagates with
      | «attribute» other => rw [explain, if_neg other]
      | item other =>
          have found : ¬ isMissingItem f.kind := fun found => other ((isMissingItem_iff _).mp found)
          rw [explain, if_neg found]
      | call => rfl

/-- A step that is taken gives a value or stops. -/
theorem exists_taken (s : Store) (v : Value) (step : Step) : ∃ r t, Taken s v step r t := by
  by_cases applies : Applies s v step
  · cases ran : (effect v step).run s with
    | mk r t =>
        cases r with
        | ok x => exact ⟨_, t, .given applies ran⟩
        | error f => exact ⟨_, t, .raised applies ran⟩
  · cases step with
    | «attribute» name => exact absurd trivial applies
    | item key => exact absurd trivial applies
    | call arguments => exact ⟨_, s, .notCallable applies⟩

/-- A stop leaves the reference unresolved or is a fault that propagates. -/
theorem Taken.meaning {s : Store} {stop : Stop} (h : Taken s v step (.error stop) t) :
    (∃ fault, Unresolves s v step stop fault) ∨ ∃ f, stop = .raised f ∧ Propagates f step := by
  cases h with
  | notCallable => exact .inl ⟨_, .call⟩
  | @raised _ f _ applies ran =>
      cases step with
      | «attribute» name =>
          by_cases missing : f.kind = .missingAttribute
          · exact .inl ⟨_, .attribute missing⟩
          · exact .inr ⟨f, rfl, .attribute missing⟩
      | item key =>
          by_cases missing : f.kind ∈ [.missingKey, .badIndex, .badType]
          · exact .inl ⟨_, .item missing⟩
          · exact .inr ⟨f, rfl, .item missing⟩
      | call arguments => exact .inr ⟨f, rfl, .call⟩

/-! ## Steps in sequence -/

/-- Steps are all passed, or there is a first one that stops. -/
theorem passed_or_stops (steps : List Step) (s : Store) (v : Value) :
    (∃ t x, Passed steps s v t x) ∨
      ∃ before step after s' x stop t, steps = before ++ step :: after ∧
        Passed before s v s' x ∧ Taken s' x step (.error stop) t := by
  induction steps generalizing s v with
  | nil => exact .inl ⟨s, v, .nil⟩
  | cons step steps ih =>
      obtain ⟨r, t, taken⟩ := exists_taken s v step
      cases r with
      | error stop => exact .inr ⟨[], step, steps, s, v, stop, t, rfl, .nil, taken⟩
      | ok x =>
          obtain ⟨u, y, passed⟩ | ⟨before, last, after, s', y, stop, u, rfl, passed, stops⟩ := ih t x
          · exact .inl ⟨u, y, .cons taken passed⟩
          · exact .inr ⟨step :: before, last, after, s', y, stop, u, rfl, .cons taken passed, stops⟩

theorem Passed.walk {steps : List Step} {s : Store} (h : Passed steps s v t x) (rest : List Step)
    (same : w.store = s) :
    (Reference.walk text (steps ++ rest) v).run w =
      (Reference.walk text rest x).run { w with store := t } := by
  induction h generalizing w with
  | nil => rw [← same]; rfl
  | cons taken _ ih =>
      subst same
      rw [List.cons_append, Reference.walk, Run.run_bind, take_given taken]
      exact ih rfl

end Step

/-! ## References -/

namespace Reference

open Step

variable {r : Reference} {a : Arguments} {w : World}

theorem start_eq (a : Arguments) (text : Text) (head : Head) :
    start a text head =
      match a.argument? head with
      | some v => .ok v
      | none => .error (.unresolved (a.absence head) text) := by
  cases head with
  | index n =>
      rw [start, Arguments.argument?]
      cases a.positional[n]? <;> rfl
  | name t =>
      rw [start, Arguments.argument?]
      cases a.named.lookup t <;> rfl

theorem resolve_absent (h : a.argument? r.head = none) :
    (r.resolve a).run w = (.error (.unresolved (a.absence r.head) r.text), w) := by
  rw [resolve, start_eq, h]
  rfl

theorem resolve_present {v : Value} (h : a.argument? r.head = some v) :
    (r.resolve a).run w = (walk r.text r.steps v).run w := by
  rw [resolve, start_eq, h]
  rfl

theorem StopsAt.resolve {step : Step} {s t : Store} {x : Value} {stop : Stop}
    (h : r.StopsAt a w.store step s x stop t) {e : Failure}
    (out : (step.take r.text x).run { w with store := s } = (.error e, { w with store := t })) :
    (r.resolve a).run w = (.error e, { w with store := t }) := by
  cases h with
  | first named split passed stops =>
      rw [resolve_present named, split, passed.walk _ rfl, walk, Run.run_bind, out]

theorem Resolved.run {result : Except Failure Value} {t : Store}
    (h : r.Resolved a w.store result t) :
    (r.resolve a).run w = (result, { w with store := t }) := by
  cases h with
  | @value v t x named passed =>
      have all : (walk r.text (r.steps ++ []) v).run w =
          (walk r.text [] x).run { w with store := t } := passed.walk [] rfl
      rw [List.append_nil] at all
      rw [resolve_present named, all]
      rfl
  | absent missing => exact resolve_absent missing
  | unresolved stops unresolves =>
      apply stops.resolve
      cases stops with
      | first _ _ _ taken => exact take_unresolved taken unresolves
  | raised stops propagates =>
      apply stops.resolve
      cases stops with
      | first _ _ _ taken => exact take_raised taken propagates

/-- Every reference is resolved in one of the ways there are. -/
theorem exists_resolved (r : Reference) (a : Arguments) (s : Store) :
    ∃ result t, r.Resolved a s result t := by
  cases named : a.argument? r.head with
  | none => exact ⟨_, s, .absent named⟩
  | some v =>
      obtain ⟨t, x, passed⟩ | ⟨before, step, after, s', x, stop, t, split, passed, taken⟩ :=
        passed_or_stops r.steps s v
      · exact ⟨_, t, .value named passed⟩
      · have stops : r.StopsAt a s step s' x stop t := .first named split passed taken
        obtain ⟨fault, unresolves⟩ | ⟨f, rfl, propagates⟩ := taken.meaning
        · exact ⟨_, t, .unresolved stops unresolves⟩
        · exact ⟨_, t, .raised stops propagates⟩

end Reference

/-- Resolving takes the steps from the left up to the first one that fails, and leaves the store that
    this one left. It ends unresolved, with the text of the reference, exactly if there is no argument
    or the first failure is that of a look-up or of calling what cannot be called; any other fault,
    and each one raised inside of a call, comes out unchanged. -/
theorem resolve_first_failure (r : Reference) (a : Arguments) (w : World) :
    (∀ result w', (r.resolve a).run w = (result, w') ↔
        ∃ t, w' = { w with store := t } ∧ r.Resolved a w.store result t) ∧
      ((∃ fault text, ((r.resolve a).run w).1 = .error (.unresolved fault text)) ↔
        a.argument? r.head = none ∨ ∃ step s x stop t fault,
          r.StopsAt a w.store step s x stop t ∧ Step.Unresolves s x step stop fault) ∧
      (∀ fault text, ((r.resolve a).run w).1 = .error (.unresolved fault text) → text = r.text) ∧
      ∀ f, ((r.resolve a).run w).1 = .error (.fault f) ↔
        ∃ step s x t, r.StopsAt a w.store step s x (.raised f) t ∧ Step.Propagates f step := by
  obtain ⟨result, t, resolved⟩ := r.exists_resolved a w.store
  have ran := resolved.run
  refine ⟨fun result' w' => ⟨?_, ?_⟩, ⟨?_, ?_⟩, ?_, ?_⟩
  · intro out
    rw [ran] at out
    cases out
    exact ⟨t, rfl, resolved⟩
  · rintro ⟨u, rfl, other⟩
    exact other.run
  · rintro ⟨fault, text, out⟩
    rw [ran] at out
    cases out
    cases resolved with
    | absent missing => exact .inl missing
    | unresolved stops unresolves => exact .inr ⟨_, _, _, _, _, _, stops, unresolves⟩
  · rintro (missing | ⟨step, s, x, stop, u, fault, stops, unresolves⟩)
    · rw [Reference.resolve_absent missing]
      exact ⟨_, _, rfl⟩
    · rw [(Reference.Resolved.unresolved stops unresolves).run]
      exact ⟨_, _, rfl⟩
  · intro fault text out
    rw [ran] at out
    cases out
    cases resolved with
    | absent | unresolved => rfl
  · intro f
    constructor
    · intro out
      rw [ran] at out
      cases out
      cases resolved with
      | raised stops propagates => exact ⟨_, _, _, _, stops, propagates⟩
    · rintro ⟨step, s, x, u, stops, propagates⟩
      rw [(Reference.Resolved.raised stops propagates).run]

/-- The item that a method took out stays out when a later step finds nothing. -/
example :
    let r : Reference := ⟨"l.pop().x.y", .name "l",
      [.attribute "pop", .call (.tuple []), .attribute "x", .attribute "y"]⟩
    (r.resolve ⟨[], [("l", .ref 0)]⟩).run (.begin [.list [.int 1]] []) =
      (.error (.unresolved (.noAttribute "int" "x") "l.pop().x.y"), .begin [.list []] []) := rfl

end Stencil

import Stencil.Proofs.Render.Sequence

/-! # Printing

A call prints all of its text in one write or nothing at all, and a template that
is malformed, or has a malformed spec, is found out before anything is done to
any object. Rendering neither looks at what has been written nor writes; the one
write of a call comes when its whole text is there.
-/

namespace Stencil

/-! ## What rendering has to do with the output -/

/-- An action that neither looks at what has been written nor writes. -/
def Run.Silent {α : Type} (act : Run α) : Prop :=
  ∀ w o, act.run { w with output := o } =
    ((act.run w).1, { (act.run w).2 with output := o })

namespace Run.Silent

variable {α β : Type}

theorem result (r : Except Failure α) : Run.Silent (ExceptT.mk (pure r) : Run α) :=
  fun _ _ => rfl

theorem ofAct (explain : Fault → Failure) (act : Act α) : (Run.ofAct explain act).Silent :=
  fun _ _ => rfl

theorem warn (text : Option Text) : (Run.warn text).Silent := fun _ _ => rfl

theorem bind {act : Run α} {next : α → Run β} (h : act.Silent) (k : ∀ v, (next v).Silent) :
    (act >>= next).Silent := by
  intro w o
  rw [run_bind, run_bind, h w o]
  cases act.run w with
  | mk r w' =>
      cases r with
      | error e => rfl
      | ok v => exact k v w' o

/-- What depends on the store alone. -/
theorem store_bind {next : Store → Run β} (k : ∀ s, (next s).Silent) :
    (Run.store >>= next).Silent := by
  intro w o
  exact k w.store w o

theorem output {act : Run α} (h : act.Silent) (w : World) : (act.run w).2.output = w.output := by
  have same := h w w.output
  exact congrArg (fun p => p.2.output) same

end Run.Silent

theorem Step.take_silent (text : Text) (step : Step) (v : Value) : (step.take text v).Silent := by
  refine .store_bind fun s => ?_
  cases step with
  | «attribute» name => exact .ofAct _ _
  | item key => exact .ofAct _ _
  | call arguments =>
      simp only
      split
      · exact .ofAct _ _
      · exact .result (.error _)

theorem Reference.walk_silent (text : Text) (steps : List Step) (v : Value) :
    (Reference.walk text steps v).Silent := by
  induction steps generalizing v with
  | nil => exact .result (.ok v)
  | cons step steps ih => exact (step.take_silent text v).bind ih

theorem Reference.resolve_silent (r : Reference) (a : Arguments) : (r.resolve a).Silent :=
  (Run.Silent.result _).bind fun v => walk_silent r.text r.steps v

theorem Directive.render_silent (d : Directive) (v : Value) : (d.render v).Silent := by
  refine .store_bind fun s => ?_
  cases d with
  | plain => exact .result (.ok _)
  | array => exact (Run.Silent.warn _).bind fun _ => .result (.ok _)
  | compact => exact .result (.ok _)
  | expanded => exact .result (.ok _)
  | numeric spec => exact .result _

theorem Template.renderSpans_silent (a : Arguments) (ds : List (Text × Demand)) :
    (renderSpans a ds).Silent := by
  induction ds with
  | nil => exact .result (.ok _)
  | cons d ds ih =>
      refine (d.2.reference.resolve_silent a).bind fun v => ?_
      refine (d.2.directive.render_silent v).bind fun shown => ?_
      exact ih.bind fun rest => .result (.ok _)

theorem render_silent (text : Text) (a : Arguments) : (render text a).Silent := by
  refine (Run.Silent.result _).bind fun t => ?_
  refine (Run.Silent.result _).bind fun spans => ?_
  exact (Template.renderSpans_silent a spans).bind fun shown => .result (.ok _)

/-! ## Templates that are not rendered at all -/

theorem render_unread {text e} (h : Template.read text = .error e) (a : Arguments) (w : World) :
    (render text a).run w = (.error (.template e), w) := by
  unfold render
  rw [h]
  rfl

/-- The first malformed spec is the fault of all the demands. -/
theorem Template.demands_malformed {spans before p after} {spec : Text}
    (split : spans.map (·.2) = before ++ p :: after)
    (wellFormed : ∀ q ∈ before, (Directive.ofSpec? q.spec).isSome) (written : p.spec = some spec)
    (malformed : Directive.ofSpec? p.spec = none) :
    demands spans = .error (.spec .malformed spec (some p.position)) := by
  induction before generalizing spans with
  | nil =>
      cases spans with
      | nil => cases split
      | cons s spans =>
          obtain ⟨l, q⟩ := s
          obtain rfl : q = p := (List.cons.inj split).1
          have first : demand q = .error (.spec .malformed spec (some q.position)) := by
            unfold demand
            rw [malformed, written]
            rfl
          rw [demands, first]
          rfl
  | cons b before ih =>
      cases spans with
      | nil => cases split
      | cons s spans =>
          obtain ⟨l, q⟩ := s
          obtain ⟨rfl, rest⟩ := List.cons.inj split
          obtain ⟨d, asked⟩ := Option.isSome_iff_exists.mp (wellFormed q (by simp))
          have later := ih rest fun q hq => wellFormed q (by simp [hq])
          simp only [demands, demand, asked, later]
          rfl

theorem render_malformed {text : Text} {t : Template} {before after : List Placeholder}
    {p : Placeholder} {spec : Text}
    (h : Template.read text = .ok t) (split : t.placeholders = before ++ p :: after)
    (wellFormed : ∀ q ∈ before, (Directive.ofSpec? q.spec).isSome) (written : p.spec = some spec)
    (malformed : Directive.ofSpec? p.spec = none) (a : Arguments) (w : World) :
    (render text a).run w = (.error (.spec .malformed spec (some p.position)), w) := by
  unfold render
  rw [h]
  change (ExceptT.mk (pure (Template.demands t.spans)) >>= fun spans => do
    let shown ← Template.renderSpans a spans
    pure (shown ++ t.tail) : Run Text).run w = _
  rw [Template.demands_malformed split wellFormed written malformed]
  rfl

/-! ## Calls -/

/-- A call that prints to a stream. -/
structure PrintCall (Stream : Type) where
  stream : Stream
  template : Text
  arguments : Arguments

/-- What calls share: the world, and the writes made to each stream. -/
structure Console (Stream : Type) where
  world : World
  written : Stream → List Text

variable {Stream : Type} [DecidableEq Stream]

namespace PrintCall

/-- Makes a call. It prints with the writes of its own stream before it. -/
def make (c : PrintCall Stream) (s : Console Stream) : Except Failure Unit × Console Stream :=
  let (r, w) := (print c.template c.arguments).run { s.world with output := s.written c.stream }
  (r, ⟨{ w with output := s.world.output }, Function.update s.written c.stream w.output⟩)

/-- Makes calls one after the other, whether they fail or not. -/
def makeAll (calls : List (PrintCall Stream)) (s : Console Stream) : Console Stream :=
  calls.foldl (fun s c => (c.make s).2) s

/-- The text that a call prints, if it does not fail. -/
def text? (c : PrintCall Stream) (s : Console Stream) : Option Text :=
  ((render c.template c.arguments).run s.world).1.toOption

/-- The texts of the calls to a stream that do not fail, each call made behind the others. -/
def texts (stream : Stream) : List (PrintCall Stream) → Console Stream → List Text
  | [], _ => []
  | c :: calls, s =>
      (if c.stream = stream then (c.text? s).toList else []) ++ texts stream calls (c.make s).2

theorem make_run (c : PrintCall Stream) (s : Console Stream) :
    c.make s =
      match (render c.template c.arguments).run s.world with
      | (.ok text, w) =>
          (.ok (), ⟨w, Function.update s.written c.stream (s.written c.stream ++ [text])⟩)
      | (.error e, w) => (.error e, ⟨w, s.written⟩) := by
  have silent := render_silent c.template c.arguments
  have kept := silent.output s.world
  have moved := silent s.world (s.written c.stream)
  unfold make print
  rw [Run.run_bind, moved]
  cases h : (render c.template c.arguments).run s.world with
  | mk r w =>
      rw [h] at kept
      cases r with
      | error e =>
          simp only [Function.update_eq_self]
          rw [← kept]
      | ok text =>
          simp only [Run.write]
          rw [← kept]
          rfl

theorem make_written (c : PrintCall Stream) (s : Console Stream) (stream : Stream) :
    (c.make s).2.written stream =
      s.written stream ++ if c.stream = stream then (c.text? s).toList else [] := by
  rw [make_run, text?]
  cases (render c.template c.arguments).run s.world with
  | mk r w =>
      cases r with
      | error e => simp [Except.toOption]
      | ok text =>
          by_cases same : c.stream = stream
          · subst same
            simp [Except.toOption]
          · have other : stream ≠ c.stream := fun h => same h.symm
            simp [same, Function.update_of_ne other]

theorem makeAll_written (calls : List (PrintCall Stream)) (s : Console Stream) (stream : Stream) :
    (makeAll calls s).written stream = s.written stream ++ texts stream calls s := by
  induction calls generalizing s with
  | nil => simp [makeAll, texts]
  | cons c calls ih =>
      have rest := ih (c.make s).2
      rw [make_written, List.append_assoc] at rest
      exact rest

theorem make_unread {c : PrintCall Stream} {e} (h : Template.read c.template = .error e)
    (s : Console Stream) : c.make s = (.error (.template e), s) := by
  rw [make_run, render_unread h]

theorem make_malformed {c : PrintCall Stream} {t : Template} {before after : List Placeholder}
    {p : Placeholder}
    (h : Template.read c.template = .ok t) (split : t.placeholders = before ++ p :: after)
    (wellFormed : ∀ q ∈ before, (Directive.ofSpec? q.spec).isSome)
    (malformed : Directive.ofSpec? p.spec = none) (s : Console Stream) :
    ∃ spec, p.spec = some spec ∧
      c.make s = (.error (.spec .malformed spec (some p.position)), s) := by
  cases written : p.spec with
  | none =>
      rw [written] at malformed
      cases malformed
  | some spec =>
      refine ⟨spec, rfl, ?_⟩
      rw [make_run, render_malformed h split wellFormed written malformed]

/-- Among calls on shared objects, each makes one write of all its text, or fails and makes none;
    and where its template or one of its specs is malformed, it fails with the first such fault and
    leaves all as it was, whatever its arguments are. -/
theorem makeAll_all_or_nothing (calls : List (PrintCall Stream)) (s : Console Stream) :
    (∀ stream, (makeAll calls s).written stream = s.written stream ++ texts stream calls s) ∧
      ∀ (before : List (PrintCall Stream)) (c : PrintCall Stream) after,
        calls = before ++ c :: after →
        let now := makeAll before s
        (c.make now =
          match (render c.template c.arguments).run now.world with
          | (.ok text, w) =>
              (.ok (), ⟨w, Function.update now.written c.stream
                (now.written c.stream ++ [text])⟩)
          | (.error e, w) => (.error e, ⟨w, now.written⟩)) ∧
        (∀ e, Template.read c.template = .error e → c.make now = (.error (.template e), now)) ∧
        ∀ (t : Template) (good : List Placeholder) (p : Placeholder) more,
          Template.read c.template = .ok t → t.placeholders = good ++ p :: more →
          (∀ q ∈ good, (Directive.ofSpec? q.spec).isSome) → Directive.ofSpec? p.spec = none →
          ∃ spec, p.spec = some spec ∧
            c.make now = (.error (.spec .malformed spec (some p.position)), now) := by
  refine ⟨makeAll_written calls s, fun before c after _ => ⟨make_run c _, ?_, ?_⟩⟩
  · intro e unread
    exact make_unread unread _
  · intro t good p more read split wellFormed malformed
    exact make_malformed read split wellFormed malformed _

/-- A malformed spec behind a placeholder that would take an item from a list. -/
theorem makeAll_all_or_nothing_pop :
    let a : Arguments := ⟨[], [("l", .ref 0)]⟩
    let c : PrintCall Unit := ⟨(), "\x7bl.pop()\x7d\x7bl:q\x7d", a⟩
    let s : Console Unit := ⟨.begin [.list [.int 1]] [], fun _ => []⟩
    c.make s = (.error (.spec .malformed "q" (some 9)), s) := by
  let pop : Placeholder := ⟨"\x7bl.pop()\x7d", "l.pop()", none, 0,
    ⟨"l.pop()", .name "l", [.attribute "pop", .call (.tuple [])]⟩⟩
  let shown : Placeholder := ⟨"\x7bl:q\x7d", "l", some "q", 9, ⟨"l", .name "l", []⟩⟩
  have read : Template.read "\x7bl.pop()\x7d\x7bl:q\x7d" =
      .ok ⟨[([], pop), ([], shown)], []⟩ := by cbv
  intro a c s
  obtain ⟨spec, written, made⟩ := ((makeAll_all_or_nothing [c] s).2 [] c [] rfl).2.2 _ [pop] shown []
    read rfl (by decide) (by decide)
  cases written
  exact made

end PrintCall

end Stencil

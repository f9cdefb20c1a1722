import Stencil.Proofs.Reference.Printed
import Stencil.Proofs.Render.Sequence
import Stencil.Proofs.Template.Agreement

/-! # Lines that are shown

A line is a template of plain text and placeholders. When every placeholder names a
value that can be rendered, the line comes out: its plain text as it stands, and in
place of each placeholder the text of its value, which is never looked at again.
What a line needs is said by its pieces, one behind the other.
-/

namespace Stencil

/-! ## What an action does -/

/-- Wherever the store is `s`, the action writes some texts, gives `v` and leaves the store `s'`. It
    takes nothing off the input; warnings it may give. -/
def Run.Does {α : Type} (act : Run α) (s : Store) (texts : List Text) (v : α) (s' : Store) : Prop :=
  ∀ w : World, w.store = s → ∃ warnings,
    act.run w = (.ok v, ⟨s', w.warnings ++ warnings, w.input, w.output ++ texts⟩)

namespace Run.Does

variable {α β : Type} {s s' s'' : Store} {x y : List Text}

/-- What neither warns nor writes. -/
theorem of_run {act : Run α} {v : α} (h : ∀ warnings input output,
    act.run ⟨s, warnings, input, output⟩ = (.ok v, ⟨s', warnings, input, output⟩)) :
    act.Does s [] v s' := by
  rintro w rfl
  exact ⟨[], by simp [h]⟩

theorem result (v : α) : (pure v : Run α).Does s [] v s := .of_run fun _ _ _ => rfl

theorem ofAct {explain : Fault → Failure} {act : Act α} {v : α} (h : act.run s = (.ok v, s')) :
    (Run.ofAct explain act).Does s [] v s' := by
  refine .of_run fun warnings input output => ?_
  change ((act.run s).1.mapError explain, (⟨(act.run s).2, warnings, input, output⟩ : World)) = _
  rw [h]
  rfl

theorem store : Run.store.Does s [] s s := .of_run fun _ _ _ => rfl

theorem warn (text : Option Text) : (Run.warn text).Does s [] () s := by
  rintro w rfl
  exact ⟨text.toList, by rw [List.append_nil]; rfl⟩

theorem write (text : Text) : (Run.write text).Does s [text] () s := by
  rintro w rfl
  exact ⟨[], by rw [List.append_nil]; rfl⟩

theorem bind {act : Run α} {next : α → Run β} {v : α} {u : β} (h : act.Does s x v s')
    (k : (next v).Does s' y u s'') : (act >>= next).Does s (x ++ y) u s'' := by
  intro w start
  obtain ⟨given, first⟩ := h w start
  obtain ⟨given', second⟩ := k ⟨s', w.warnings ++ given, w.input, w.output ++ x⟩ rfl
  refine ⟨given ++ given', ?_⟩
  rw [run_bind, first]
  simp only [second, List.append_assoc]

end Run.Does

/-! ## Values -/

namespace Directive

variable {s : Store} {v : Value}

theorem plain_does : (plain.render v).Does s [] (s.safeSpeak v) s := .bind .store (.result _)

/-- Data that is no text speaks as it is written. -/
theorem scalar_does {x : Scalar} (other : ∀ t, x ≠ .text t) :
    (plain.render (.scalar x)).Does s [] x.display s := by
  have shown : s.safeSpeak (.scalar x) = x.display := by
    rw [Store.safeSpeak, Store.speak, Store.display, displayFrom]
    all_goals simp [other]
  rw [← shown]
  exact plain_does

theorem array_does : (array.render v).Does s [] (s.layOut v).1 s :=
  .bind .store ((Run.Does.warn _).bind (.result _))

theorem compact_does : (compact.render v).Does s [] (s.compactText v) s := .bind .store (.result _)

theorem expanded_does : (expanded.render v).Does s [] (s.expand Layout.standardIndent v) s :=
  .bind .store (.result _)

theorem numeric_does {spec text : Text} (h : formatNumeric s v spec = .ok text) :
    ((numeric spec).render v).Does s [] text s := by
  refine .bind (.store (s := s)) ?_
  simp only [h]
  exact .result text

end Directive

/-! ## References -/

namespace Step.AllPrinted

theorem items {keys : List Literal} (h : ∀ k ∈ keys, Literal.Plain k) :
    AllPrinted (keys.map .item) (keys.flatMap fun k => '[' :: (k.display ++ [']'])) := by
  induction keys with
  | nil => exact .nil
  | cons k keys ih =>
      obtain ⟨plain, rest⟩ := List.forall_mem_cons.mp h
      exact .cons (g := []) (List.forall_mem_nil _) (.item plain) (ih rest)

theorem method {name : Text} {args : List Literal} (named : IsName name)
    (h : ∀ x ∈ args, Literal.Plain x) : AllPrinted [.attribute name, .call (.tuple args)]
      ('.' :: name ++ '(' :: (Literal.displayAll args ++ [')'])) := by
  have call : AllPrinted [.call (.tuple args)] ('(' :: (Literal.displayAll args ++ [')'])) := by
    simpa using AllPrinted.cons (g := []) (List.forall_mem_nil _) (.call h) .nil
  exact .cons (g := []) (List.forall_mem_nil _) (.point (g := []) (List.forall_mem_nil _) named)
    call

end Step.AllPrinted

theorem Head.Printed.of_read {t : Text} (read : Reference.readName? t = some (t, [])) :
    Head.Printed (.name t) t := .name (Reference.readName?_iff.mp read).2.1

namespace Reference

variable {t u : Text} {head : Head} {steps : List Step}

theorem read_head (h : Head.Printed head t) : read t = .ok ⟨t, head, []⟩ := by
  simpa using read_printed (List.forall_mem_nil _) (List.forall_mem_nil _) h .nil

theorem resolve_head {s : Store} {a : Arguments} {v : Value} (found : start a t head = .ok v) :
    ((⟨t, head, []⟩ : Reference).resolve a).Does s [] v s := by
  refine .of_run fun _ _ _ => ?_
  unfold resolve
  rw [found]
  rfl

theorem read_steps (h : Head.Printed head t) (hs : Step.AllPrinted steps u) :
    read (t ++ u) = .ok ⟨t ++ u, head, steps⟩ := by
  simpa using read_printed (List.forall_mem_nil _) (List.forall_mem_nil _) h hs

theorem read_items (keys : List Literal) (h : Head.Printed head t)
    (plain : ∀ k ∈ keys, Literal.Plain k) :
    read (t ++ keys.flatMap fun k => '[' :: (k.display ++ [']'])) =
      .ok ⟨t ++ keys.flatMap fun k => '[' :: (k.display ++ [']']), head, keys.map .item⟩ :=
  read_steps h (.items plain)

theorem read_method (name : Text) (args : List Literal) (h : Head.Printed head t)
    (named : readName? name = some (name, [])) (plain : ∀ x ∈ args, Literal.Plain x) :
    read (t ++ '.' :: name ++ '(' :: (Literal.displayAll args ++ [')'])) =
      .ok ⟨t ++ '.' :: name ++ '(' :: (Literal.displayAll args ++ [')']), head,
        [.attribute name, .call (.tuple args)]⟩ := by
  rw [List.append_assoc]
  exact read_steps h (.method (readName?_iff.mp named).2.1 plain)

end Reference

/-! ## Lines -/

/-- Whether a text has no braces. -/
def isBare (t : Text) : Bool := t.all fun c => c != '\x7b' && c != '\x7d'

theorem Accepted.append {t u : Text} (ht : Accepted t) (hu : Accepted u) : Accepted (t ++ u) := by
  obtain ⟨T, readT, wellFormed⟩ := ht
  obtain ⟨U, readU, wellFormed'⟩ := hu
  refine ⟨_, Template.read_seq readT readU, fun p hp => ?_⟩
  obtain ⟨spans, tail⟩ := U
  have behind : ∀ q ∈ (spans.map (·.2)).map (Placeholder.movedBy t.length),
      (Directive.ofSpec? q.spec).isSome := List.forall_mem_map.mpr wellFormed'
  cases spans with
  | nil => exact wellFormed p hp
  | cons span spans =>
      have among : p ∈ T.placeholders ++
          ((span :: spans).map (·.2)).map (Placeholder.movedBy t.length) := by
        simpa [Template.append, Template.movedBy, Template.placeholders, Function.comp_def] using hp
      exact (List.mem_append.mp among).elim (wellFormed p) (behind p)

/-- A template that is rendered as a text wherever the store is `s`, which it leaves as it is. -/
structure Shows (s : Store) (a : Arguments) (template text : Text) : Prop where
  accepted : Accepted template
  rendered : (render template a).Does s [] text s

namespace Shows

variable {s : Store} {a : Arguments} {t u x y : Text}

theorem append (ht : Shows s a t x) (hu : Shows s a u y) : Shows s a (t ++ u) (x ++ y) := by
  refine ⟨ht.accepted.append hu.accepted, ?_⟩
  rw [render_seq ht.accepted hu.accepted]
  exact ht.rendered.bind (hu.rendered.bind (.result _))

/-- Text without braces stands for itself. -/
theorem plain (bare : isBare t) : Shows s a t t := by
  have each : ∀ c ∈ t, (if c = '\x7b' ∨ c = '\x7d' then [c, c] else [c]) = [c] := by
    intro c hc
    have kept := List.all_eq_true.mp bare c hc
    simp only [Bool.and_eq_true, bne_iff_ne] at kept
    exact if_neg (not_or.mpr kept)
  have same : Template.escape t = t := (List.flatMap_congr each).trans (List.flatMap_singleton' t)
  have read : Template.read t = .ok ⟨[], t⟩ := by
    have placed := Template.readFrom_placed (n := 0) .nil t
    rwa [Template.sources, List.map_nil, Template.join, same] at placed
  refine ⟨⟨⟨[], t⟩, read, List.forall_mem_nil _⟩, ?_⟩
  rw [render_read read .nil]
  exact .result t

/-- A placeholder that names a value and asks for it in a way that it has. -/
theorem slot {body front : Text} {spec : Option Text} {r : Reference} {d : Directive} {v : Value}
    (scanned : Template.scanBody 0 (body ++ ['\x7d']) = .ok (body, []))
    (split : Template.splitSpec 0 body = (front, spec)) (read : Reference.read front = .ok r)
    (asked : Directive.ofSpec? spec = some d) (resolved : (r.resolve a).Does s [] v s)
    (shown : (d.render v).Does s [] x s) : Shows s a ('\x7b' :: body ++ ['\x7d']) x := by
  obtain ⟨-, braceless, closes⟩ := Template.scanBody_iff.mp scanned
  have balanced := Template.closes_zero.mp closes
  have parts : Template.Parts ('\x7b' :: body ++ ['\x7d']) body front spec r :=
    ⟨rfl, braceless, balanced, (Template.splitSpec_iff balanced).mp split,
      Template.trim_ne_nil read, (Template.read_trim front).trans read⟩
  have whole := Template.readFrom_placed
    (.cons (p := ⟨_, Text.trim front, spec, 0, r⟩) (n := 0) (l := []) parts rfl rfl .nil) []
  have made : Template.read ('\x7b' :: body ++ ['\x7d']) =
      .ok ⟨[([], ⟨'\x7b' :: body ++ ['\x7d'], Text.trim front, spec, 0, r⟩)], []⟩ := by
    simpa [Template.read, Template.sources, Template.join, Template.escape] using whole
  have demanded : List.Forall₂ Template.Demands
      [([], ⟨'\x7b' :: body ++ ['\x7d'], Text.trim front, spec, 0, r⟩)] [([], ⟨d, r⟩)] :=
    .cons ⟨rfl, asked, rfl⟩ .nil
  refine ⟨⟨_, made, List.forall_mem_singleton.mpr (by rw [asked]; rfl)⟩, ?_⟩
  rw [render_read made demanded]
  have alone : (do
      let x ← Template.renderSpans a [([], ⟨d, r⟩)]
      pure (x ++ [])) = r.resolve a >>= d.render := by simp [Template.renderSpans]
  rw [alone]
  exact resolved.bind shown

section Heads

variable {body : Text} {spec : Option Text} {d : Directive} {v : Value}

/-- A placeholder for a named argument. -/
theorem named {name : Text} (scanned : Template.scanBody 0 (body ++ ['\x7d']) = .ok (body, []))
    (split : Template.splitSpec 0 body = (name, spec))
    (read : Reference.readName? name = some (name, [])) (found : a.named.lookup name = some v)
    (asked : Directive.ofSpec? spec = some d) (shown : (d.render v).Does s [] x s) :
    Shows s a ('\x7b' :: body ++ ['\x7d']) x := by
  have start : Reference.start a name (.name name) = .ok v := by
    simp only [Reference.start, found]
  exact .slot scanned split (Reference.read_head (.of_read read)) asked
    (Reference.resolve_head start) shown

/-- A placeholder for an argument at a position. -/
theorem positional (n : Nat) (scanned : Template.scanBody 0 (body ++ ['\x7d']) = .ok (body, []))
    (split : Template.splitSpec 0 body = (natText n, spec)) (found : a.positional[n]? = some v)
    (asked : Directive.ofSpec? spec = some d) (shown : (d.render v).Does s [] x s) :
    Shows s a ('\x7b' :: body ++ ['\x7d']) x := by
  have start : Reference.start a (natText n) (.index n) = .ok v := by
    simp only [Reference.start, found]
  exact .slot scanned split (Reference.read_head (.index n)) asked
    (Reference.resolve_head start) shown

end Heads

theorem printed (h : Shows s a t x) : (print t a).Does s [x] () s :=
  h.rendered.bind (.write x)

end Shows

/-! ## Lines by what they begin with -/

/-- Wherever the store is `s`, the action writes one text for each caption, which begins with it, and
    leaves the store `s'`. -/
def Run.Tells (act : Run Unit) (s : Store) (captions : List Text) (s' : Store) : Prop :=
  ∃ texts, act.Does s texts () s' ∧ List.Forall₂ (· <+: ·) captions texts

section Captions

variable {α : Type} {s s' s'' : Store} {x y : List Text}

theorem Run.Tells.bind {act : Run Unit} {next : Unit → Run Unit} (h : act.Tells s x s')
    (k : (next ()).Tells s' y s'') : (act >>= next).Tells s (x ++ y) s'' := by
  obtain ⟨texts, does, captions⟩ := h
  obtain ⟨texts', does', captions'⟩ := k
  exact ⟨texts ++ texts', does.bind does', List.rel_append captions captions'⟩

/-- One line more. -/
theorem Run.Tells.line {act : Run Unit} {next : Unit → Run Unit} {caption : Text}
    (h : act.Tells s [caption] s) (k : (next ()).Tells s y s') :
    (act >>= next).Tells s (caption :: y) s' := h.bind k

theorem Run.Does.tells {act : Run α} {v : α} {next : α → Run Unit} (h : act.Does s [] v s')
    (k : (next v).Tells s' y s'') : (act >>= next).Tells s y s'' := by
  obtain ⟨texts, does, captions⟩ := k
  exact ⟨texts, h.bind does, captions⟩

/-- A template whose text begins with a caption wherever the store is `s`. -/
def Opens (s : Store) (a : Arguments) (template caption : Text) : Prop :=
  ∃ text, Shows s a template text ∧ caption <+: text

variable {a : Arguments} {t u caption text : Text}

theorem Shows.opens (h : Shows s a t text) : Opens s a t text := ⟨text, h, List.prefix_rfl⟩

theorem Opens.append (ht : Opens s a t caption) (hu : ∃ text, Shows s a u text) :
    Opens s a (t ++ u) caption := by
  obtain ⟨x, shown, begins⟩ := ht
  obtain ⟨y, rest⟩ := hu
  exact ⟨x ++ y, shown.append rest, begins.trans (List.prefix_append x y)⟩

theorem Opens.tells (h : Opens s a t caption) : (print t a).Tells s [caption] s := by
  obtain ⟨x, shown, begins⟩ := h
  exact ⟨[x], shown.printed, .cons begins .nil⟩

end Captions

end Stencil

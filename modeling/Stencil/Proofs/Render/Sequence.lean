import Mathlib
import Stencil.Proofs.Template.Append
import Stencil.Render

/-! # Rendering in sequence

Two templates one behind the other are rendered as the first and then, from the
world that it leaves, the second. Nothing in a template looks ahead: a
placeholder is resolved and rendered before the next one is resolved, so that
what a later one does to an object never shows in an earlier one.
-/

namespace Stencil

/-- Text that is a template and whose specs are all well formed. -/
def Accepted (text : Text) : Prop :=
  ∃ t, Template.read text = .ok t ∧ ∀ p ∈ t.placeholders, (Directive.ofSpec? p.spec).isSome

/-- What rendering the spans of a template and the text behind them does, said one placeholder
    after the other: the world each one finds, and the world it leaves. -/
inductive Rendered (a : Arguments) (tail : Text) :
    List (Text × Placeholder) → World → Except Failure Text → World → Prop where
  | done {w} : Rendered a tail [] w (.ok tail) w
  | unresolved {l p spans w e w'} : (p.reference.resolve a).run w = (.error e, w') →
      Rendered a tail ((l, p) :: spans) w (.error e) w'
  | refused {l p spans w v w' d e w''} : (p.reference.resolve a).run w = (.ok v, w') →
      Directive.ofSpec? p.spec = some d → (d.render v).run w' = (.error e, w'') →
      Rendered a tail ((l, p) :: spans) w (.error e) w''
  | shown {l p spans w v w' d text w'' r w'''} : (p.reference.resolve a).run w = (.ok v, w') →
      Directive.ofSpec? p.spec = some d → (d.render v).run w' = (.ok text, w'') →
      Rendered a tail spans w'' r w''' →
      Rendered a tail ((l, p) :: spans) w (r.map (l ++ text ++ ·)) w'''

namespace Template

/-! ## Demands -/

/-- A literal text with the placeholder behind it, and with the demand that this one makes. -/
def Demands (s : Text × Placeholder) (d : Text × Demand) : Prop :=
  d.1 = s.1 ∧ Directive.ofSpec? s.2.spec = some d.2.directive ∧ d.2.reference = s.2.reference

theorem demands_ok {spans ds} (h : List.Forall₂ Demands spans ds) : demands spans = .ok ds := by
  induction h with
  | nil => rfl
  | @cons s d spans ds made _ ih =>
      obtain ⟨l, p⟩ := s
      obtain ⟨m, directive, reference⟩ := d
      obtain ⟨rfl, asked, same⟩ := made
      simp only at asked same
      subst same
      have first : demand p = .ok ⟨directive, p.reference⟩ := by
        unfold demand
        rw [asked]
      rw [demands, first, ih]
      rfl

/-- Spans have their demands when all their specs are well formed. -/
theorem exists_demands {spans : List (Text × Placeholder)}
    (h : ∀ s ∈ spans, (Directive.ofSpec? s.2.spec).isSome) : ∃ ds, List.Forall₂ Demands spans ds := by
  induction spans with
  | nil => exact ⟨[], .nil⟩
  | cons s spans ih =>
      obtain ⟨ds, rest⟩ := ih fun s hs => h s (by simp [hs])
      obtain ⟨d, asked⟩ := Option.isSome_iff_exists.mp (h s (by simp))
      exact ⟨(s.1, ⟨d, s.2.reference⟩) :: ds, .cons ⟨rfl, asked, rfl⟩ rest⟩

theorem demands_moved {k : Nat} {spans ds} (h : List.Forall₂ Demands spans ds) :
    List.Forall₂ Demands (spans.map fun s => (s.1, s.2.movedBy k)) ds := by
  rw [List.forall₂_map_left_iff]
  exact h

/-! ## Spans in sequence -/

theorem renderSpans_append (a : Arguments) (ds es : List (Text × Demand)) :
    renderSpans a (ds ++ es) = (do
      let x ← renderSpans a ds
      let y ← renderSpans a es
      pure (x ++ y)) := by
  induction ds with
  | nil => simp [renderSpans]
  | cons d ds ih =>
      simp only [List.cons_append, renderSpans, ih, bind_assoc, pure_bind, List.append_assoc]

theorem renderSpans_text (a : Arguments) (l m : Text) (d : Demand) (ds : List (Text × Demand)) :
    renderSpans a ((l ++ m, d) :: ds) = (do
      let x ← renderSpans a ((m, d) :: ds)
      pure (l ++ x)) := by
  simp [renderSpans]

end Template

theorem render_read {text t ds} (read : Template.read text = .ok t)
    (h : List.Forall₂ Template.Demands t.spans ds) (a : Arguments) :
    render text a = (do
      let x ← Template.renderSpans a ds
      pure (x ++ t.tail)) := by
  unfold render
  rw [read]
  change (ExceptT.mk (pure (Template.demands t.spans)) >>= fun spans => do
    let x ← Template.renderSpans a spans
    pure (x ++ t.tail) : Run Text) = _
  rw [Template.demands_ok h]
  rfl

namespace Template

/-- Two templates one behind the other make the demands of both. -/
theorem append_renders {t u : Template} {ds es} (h : List.Forall₂ Demands t.spans ds)
    (k : List.Forall₂ Demands u.spans es) :
    ∃ fs, List.Forall₂ Demands (t.append u).spans fs ∧ ∀ a, (do
        let x ← renderSpans a fs
        pure (x ++ (t.append u).tail)) = (do
        let x ← renderSpans a ds
        let y ← renderSpans a es
        pure ((x ++ t.tail) ++ (y ++ u.tail))) := by
  obtain ⟨spans, tail⟩ := u
  cases k with
  | nil =>
      refine ⟨ds, h, fun a => ?_⟩
      simp [append, renderSpans]
  | @cons s e spans es made rest =>
      obtain ⟨l, p⟩ := s
      obtain ⟨m, d⟩ := e
      obtain ⟨same, asked⟩ := made
      simp only at same
      subst same
      refine ⟨ds ++ (t.tail ++ m, d) :: es, List.rel_append h (.cons ⟨rfl, asked⟩ rest), fun a => ?_⟩
      rw [renderSpans_append]
      simp only [renderSpans_text, bind_assoc, pure_bind, List.append_assoc, append]

end Template

/-! ## Order of effects -/

theorem rendered_spans {spans ds} (h : List.Forall₂ Template.Demands spans ds) (a : Arguments)
    (tail : Text) (w : World) {r w'}
    (run : (do
      let x ← Template.renderSpans a ds
      pure (x ++ tail) : Run Text).run w = (r, w')) : Rendered a tail spans w r w' := by
  induction h generalizing w r w' with
  | nil =>
      cases run
      exact .done
  | @cons s d spans ds made _ ih =>
      obtain ⟨l, p⟩ := s
      obtain ⟨m, directive, reference⟩ := d
      obtain ⟨same, asked, same'⟩ := made
      simp only at same asked same'
      subst same same'
      simp only [Template.renderSpans, bind_assoc, pure_bind, Run.run_bind] at run
      cases resolved : (p.reference.resolve a).run w with
      | mk r₁ w₁ =>
          rw [resolved] at run
          cases r₁ with
          | error e =>
              cases run
              exact .unresolved resolved
          | ok v =>
              cases shown : (directive.render v).run w₁ with
              | mk r₂ w₂ =>
                  simp only [shown] at run
                  cases r₂ with
                  | error e =>
                      cases run
                      exact .refused resolved asked shown
                  | ok text =>
                      cases more : (Template.renderSpans a ds).run w₂ with
                      | mk r₃ w₃ =>
                          have behind : (do
                              let x ← Template.renderSpans a ds
                              pure (x ++ tail) : Run Text).run w₂ = (r₃.map (· ++ tail), w₃) := by
                            rw [Run.run_bind, more]
                            cases r₃ <;> rfl
                          have next := Rendered.shown (l := m) resolved asked shown (ih w₂ behind)
                          simp only [more] at run
                          cases r₃ with
                          | error e =>
                              cases run
                              exact next
                          | ok x =>
                              cases run
                              simpa [Except.map] using next

theorem accepted_demands {text} (h : Accepted text) :
    ∃ t ds, Template.read text = .ok t ∧ List.Forall₂ Template.Demands t.spans ds := by
  obtain ⟨t, read, wellFormed⟩ := h
  have each : ∀ s ∈ t.spans, (Directive.ofSpec? s.2.spec).isSome := fun s hs =>
    wellFormed s.2 (List.mem_map_of_mem hs)
  obtain ⟨ds, made⟩ := Template.exists_demands each
  exact ⟨t, ds, read, made⟩

/-- Two templates one behind the other are read as the first and then, moved, the second. -/
theorem Template.read_seq {t u : Text} {T U : Template} (ht : read t = .ok T)
    (hu : read u = .ok U) : read (t ++ u) = .ok (T.append (U.movedBy t.length)) := by
  have farther : readFrom (0 + t.length) u = .ok (U.movedBy t.length) := by
    rw [readFrom_moved]
    unfold read at hu
    rw [hu]
    rfl
  unfold read
  rw [readFrom_append ht, farther]
  rfl

theorem render_seq {t u : Text} (ht : Accepted t) (hu : Accepted u) (a : Arguments) :
    render (t ++ u) a = (do
      let x ← render t a
      let y ← render u a
      pure (x ++ y)) := by
  obtain ⟨T, ds, readT, madeT⟩ := accepted_demands ht
  obtain ⟨U, es, readU, madeU⟩ := accepted_demands hu
  have joined := Template.read_seq readT readU
  obtain ⟨fs, made, sequence⟩ := Template.append_renders madeT (u := U.movedBy t.length) (Template.demands_moved madeU)
  rw [render_read joined made, sequence, render_read readT madeT, render_read readU madeU]
  simp only [bind_assoc, pure_bind]
  rfl

theorem render_seq_run {t u : Text} (ht : Accepted t) (hu : Accepted u) (a : Arguments)
    (w : World) :
    (render (t ++ u) a).run w =
      match (render t a).run w with
      | (.error e, w') => (.error e, w')
      | (.ok x, w') =>
          match (render u a).run w' with
          | (.error e, w'') => (.error e, w'')
          | (.ok y, w'') => (.ok (x ++ y), w'') := by
  rw [render_seq ht hu, Run.run_bind]
  cases (render t a).run w with
  | mk r w' =>
      cases r with
      | error e => rfl
      | ok x =>
          simp only [Run.run_bind]
          cases (render u a).run w' with
          | mk r' w'' => cases r' <;> rfl

/-- A template behind another one is rendered from the world that the first one leaves, unless the
    first one fails. Within each, the placeholders are rendered in the same way one after the other,
    and no later one changes the text that is there already. -/
theorem render_append {t u : Text} (ht : Accepted t) (hu : Accepted u) (a : Arguments)
    (w : World) :
    ((render (t ++ u) a).run w =
      match (render t a).run w with
      | (.error e, w') => (.error e, w')
      | (.ok x, w') =>
          match (render u a).run w' with
          | (.error e, w'') => (.error e, w'')
          | (.ok y, w'') => (.ok (x ++ y), w'')) ∧
      (∃ T, Template.read t = .ok T ∧
        Rendered a T.tail T.spans w ((render t a).run w).1 ((render t a).run w).2) ∧
      ∀ z w'', (render (t ++ u) a).run w = (.ok z, w'') →
        ∃ x w', (render t a).run w = (.ok x, w') ∧ x <+: z := by
  refine ⟨render_seq_run ht hu a w, ?_, ?_⟩
  · obtain ⟨T, ds, read, made⟩ := accepted_demands ht
    rw [render_read read made]
    exact ⟨T, read, rendered_spans made a T.tail w rfl⟩
  · intro z w'' whole
    rw [render_seq_run ht hu] at whole
    cases first : (render t a).run w with
    | mk r w' =>
        rw [first] at whole
        cases r with
        | error e => cases whole
        | ok x =>
            refine ⟨x, w', rfl, ?_⟩
            cases second : (render u a).run w' with
            | mk r' w₂ =>
                simp only [second] at whole
                cases r' with
                | error e => cases whole
                | ok y =>
                    cases whole
                    exact List.prefix_append x y

/-- A list that is shown, then loses an item, and is shown once more under its other name. -/
theorem render_append_pop :
    let shown : Text := "\x7bl\x7d\x7bl.pop()\x7d"
    let again : Text := "\x7b0\x7d"
    let a : Arguments := ⟨[.ref 0], [("l", .ref 0)]⟩
    let w := World.begin [.list [.int 1, .int 2]] []
    Accepted shown ∧ Accepted again ∧
      (render (shown ++ again) a).run w =
        match (render shown a).run w with
        | (.error e, w') => (.error e, w')
        | (.ok x, w') =>
            match (render again a).run w' with
            | (.error e, w'') => (.error e, w'')
            | (.ok y, w'') => (.ok (x ++ y), w'') := by
  have shown : Accepted "\x7bl\x7d\x7bl.pop()\x7d" :=
    ⟨⟨[([], ⟨"\x7bl\x7d", "l", none, 0, ⟨"l", .name "l", []⟩⟩),
       ([], ⟨"\x7bl.pop()\x7d", "l.pop()", none, 3,
        ⟨"l.pop()", .name "l", [.attribute "pop", .call (.tuple [])]⟩⟩)], []⟩, by cbv, by decide⟩
  have again : Accepted "\x7b0\x7d" :=
    ⟨⟨[([], ⟨"\x7b0\x7d", "0", none, 0, ⟨"0", .index 0, []⟩⟩)], []⟩, by cbv, by decide⟩
  exact ⟨shown, again, (render_append shown again _ _).1⟩

end Stencil

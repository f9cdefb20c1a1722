import Mathlib
import Stencil.Fault
import Stencil.Proofs.Template.Append

/-! # Where templates go wrong

A text that is no template has one place where it goes wrong: what stands in
front of that place is a template, and what stands there is a brace by itself or
a placeholder that cannot be made. So a text behind a template goes wrong where
it does when it stands alone, only farther on.
-/

namespace Stencil.Template

/-- Text without braces that never closes more parentheses than it opens, `d` of them being open in
    front of it. -/
structure Within (d : Nat) (t : Text) : Prop where
  braceless : ∀ c ∈ t, c ≠ '\x7b' ∧ c ≠ '\x7d'
  above : ∀ p, p <+: t → 0 ≤ d + level p

/-- Why the scan of a body fails, `d` parentheses being open in front of the text, and how much of
    the text has been seen then. -/
inductive ScanFault (d : Nat) : Text → TemplateFault → Text → Prop where
  | unterminated {t} : Within d t → ScanFault d t .unterminated t
  | nested {u rest} : Within d u → ScanFault d (u ++ '\x7b' :: rest) .nestedBrace (u ++ ['\x7b'])
  | closing {u rest} : Within d u → d + level u = 0 →
      ScanFault d (u ++ ')' :: rest) .unbalancedClose (u ++ [')'])
  | opening {u rest} : Within d u → d + level u ≠ 0 →
      ScanFault d (u ++ '\x7d' :: rest) .unbalancedOpen (u ++ ['\x7d'])

/-- A text in which a whole body stands between braces in front of something else. -/
structure InBraces (body rest v : Text) : Prop where
  text : v = '\x7b' :: (body ++ '\x7d' :: rest)
  braceless : ∀ c ∈ body, c ≠ '\x7b' ∧ c ≠ '\x7d'
  balanced : Balanced body

/-- What is wrong at the start of a text, and the text that the fault shows. -/
inductive FaultAt (v : Text) : TemplateFault → Text → Prop where
  | singleBrace {rest} : v = '\x7d' :: rest → (∀ c ∈ rest.head?, c ≠ '\x7d') →
      FaultAt v .singleBrace ['\x7d']
  | scan {t f seen} : v = '\x7b' :: t → (∀ c ∈ t.head?, c ≠ '\x7b') → ScanFault 0 t f seen →
      FaultAt v f ('\x7b' :: seen)
  | emptyPlaceholder {body rest} : InBraces body rest v → Text.isBlank body →
      FaultAt v .emptyPlaceholder ('\x7b' :: (body ++ ['\x7d']))
  | emptyExpression {body rest front spec} : InBraces body rest v → Splits body front spec →
      Text.trim front = [] → FaultAt v .emptyExpression ('\x7b' :: (body ++ ['\x7d']))
  | badReference {body rest front spec fault} : InBraces body rest v → Splits body front spec →
      Text.trim front ≠ [] → Reference.read (Text.trim front) = .error fault →
      FaultAt v (.badReference fault) (Text.trim front)

/-! ## The scan of a body -/

theorem Within.nil {d} : Within d [] where
  braceless := by simp
  above := by
    intro p hp
    rw [List.prefix_nil.mp hp]
    simp [level]

theorem Within.cons {d e : Nat} {c t} (he : (e : Int) = d + delta c)
    (hc : c ≠ '\x7b' ∧ c ≠ '\x7d') (h : Within e t) : Within d (c :: t) where
  braceless := List.forall_mem_cons.mpr ⟨hc, h.braceless⟩
  above := above_cons.mpr ⟨e, he, h.above⟩

theorem ScanFault.cons {d e : Nat} {c t f seen} (he : (e : Int) = d + delta c)
    (hc : c ≠ '\x7b' ∧ c ≠ '\x7d') (h : ScanFault e t f seen) :
    ScanFault d (c :: t) f (c :: seen) := by
  have levels : ∀ u, (d : Int) + level (c :: u) = e + level u := by
    intro u
    rw [level_cons]
    omega
  cases h with
  | unterminated within => exact .unterminated (within.cons he hc)
  | nested within => exact .nested (within.cons he hc)
  | closing within zero => exact .closing (within.cons he hc) (by rw [levels, zero])
  | opening within deep => exact .opening (within.cons he hc) (by rw [levels]; exact deep)

theorem onward_error {c : Char} {r : Except (TemplateFault × Text) (Text × Text)} {f seen}
    (h : (match r with
      | .ok (body, rest) => .ok (c :: body, rest)
      | .error (f, seen) => .error (f, c :: seen)) =
        (.error (f, seen) : Except (TemplateFault × Text) (Text × Text))) :
    ∃ more, seen = c :: more ∧ r = .error (f, more) := by
  cases r with
  | ok r => cases h
  | error e =>
      cases h
      exact ⟨_, rfl, rfl⟩

theorem scanBody_error {d t f seen} (h : scanBody d t = .error (f, seen)) :
    ScanFault d t f seen := by
  induction t generalizing d seen with
  | nil =>
      cases h
      exact .unterminated .nil
  | cons c t ih =>
      have next : ∀ e : Nat, (e : Int) = d + delta c → c ≠ '\x7b' ∧ c ≠ '\x7d' →
          (∃ more, seen = c :: more ∧ scanBody e t = .error (f, more)) →
          ScanFault d (c :: t) f seen := by
        rintro e he hc ⟨more, rfl, failed⟩
        exact (ih failed).cons he hc
      -- the cases are those of the scanner, in its order
      simp only [scanBody] at h
      split at h
      · subst c
        cases h
        exact .nested (u := []) .nil
      · rename_i brace
        split at h
        · subst c
          exact next (d + 1) (by simp [delta]) (by decide) (onward_error h)
        · rename_i opens
          split at h
          · subst c
            split at h
            · subst d
              cases h
              exact .closing (u := []) .nil (by simp [level])
            · apply next (d - 1) _ (by decide) (onward_error h)
              simp [delta]
              omega
          · rename_i closes
            split at h
            · subst c
              split at h
              · cases h
              · rename_i deep
                cases h
                apply ScanFault.opening (u := []) .nil
                simp only [level, List.count_nil]
                omega
            · rename_i close
              have zero : delta c = 0 := by simp [delta, opens, closes]
              exact next d (by omega) ⟨brace, close⟩ (onward_error h)

theorem ScanFault.seen_prefix {d t f seen} (h : ScanFault d t f seen) : seen <+: t := by
  cases h with
  | unterminated => exact List.prefix_rfl
  | nested | closing | opening => simp [List.prefix_append_right_inj]

/-! ## Making a placeholder -/

theorem placeholder_error {body rest v : Text} {n e} (h : InBraces body rest v)
    (failed : placeholder body n = .error e) : FaultAt v e.fault e.fragment ∧ e.position = n := by
  cases cut : splitSpec 0 body with
  | mk front spec =>
      have splits := (splitSpec_iff h.balanced).mp cut
      rw [placeholder, cut] at failed
      split at failed
      · rename_i blank
        cases failed
        exact ⟨.emptyPlaceholder h blank, rfl⟩
      · simp only at failed
        split at failed
        · rename_i empty
          cases failed
          exact ⟨.emptyExpression h splits empty, rfl⟩
        · rename_i visible
          split at failed
          · rename_i unread
            cases failed
            exact ⟨.badReference h splits visible unread, rfl⟩
          · cases failed

/-! ## The place of a fault -/

/-- What a fault shows is what stands there, or the reference that cannot be read. -/
theorem FaultAt.fragment {v f shown} (h : FaultAt v f shown) :
    shown <+: v ∨ ∃ body rest front spec fault, InBraces body rest v ∧ Splits body front spec ∧
      f = .badReference fault ∧ shown = Text.trim front := by
  cases h with
  | singleBrace text => exact .inl ⟨_, text.symm⟩
  | scan text _ fault =>
      left
      rw [text, List.cons_prefix_cons]
      exact ⟨rfl, fault.seen_prefix⟩
  | emptyPlaceholder braces | emptyExpression braces =>
      left
      rw [braces.text]
      simp [List.prefix_append_right_inj]
  | badReference braces splits => exact .inr ⟨_, _, _, _, _, braces, splits, rfl, rfl⟩

theorem FaultAt.ne_nil {v f shown} (h : FaultAt v f shown) : v ≠ [] := by
  cases h with
  | singleBrace text | scan text => simp [text]
  | emptyPlaceholder braces | emptyExpression braces | badReference braces => simp [braces.text]

/-- A fault of a text that begins at an offset: a template stands in front of it. -/
structure FailsAt (n : Nat) (t : Text) (e : TemplateError) (before behind : Text) : Prop where
  text : t = before ++ behind
  accepted : ∃ T, readFrom n before = .ok T
  position : e.position = n + before.length
  fault : FaultAt behind e.fault e.fragment

theorem FailsAt.here {n t} {e : TemplateError} (fault : FaultAt t e.fault e.fragment)
    (place : e.position = n) : FailsAt n t e [] t where
  text := rfl
  accepted := ⟨⟨[], []⟩, by rw [readFrom]⟩
  position := place
  fault := fault

theorem FailsAt.behind {n w W t e before rest} (whole : readFrom n w = .ok W)
    (h : FailsAt (n + w.length) t e before rest) : FailsAt n (w ++ t) e (w ++ before) rest where
  text := by rw [h.text, List.append_assoc]
  accepted := by
    obtain ⟨T, accepted⟩ := h.accepted
    exact ⟨W.append T, by rw [readFrom_append whole, accepted]; rfl⟩
  position := by
    rw [h.position, List.length_append]
    omega
  fault := h.fault

theorem readFrom_unscanned {n t f seen} (first : ∀ c ∈ t.head?, c ≠ '\x7b')
    (scanned : scanBody 0 t = .error (f, seen)) :
    readFrom n ('\x7b' :: t) = .error ⟨f, '\x7b' :: seen, n⟩ := by
  rw [readFrom]
  · split
    · rename_i e
      cases scanned.symm.trans e
      rfl
    · rename_i e
      cases scanned.symm.trans e
  · rintro u rfl
    exact first _ rfl rfl

theorem head_ne {a : Char} {t : Text} (h : ∀ u, t = a :: u → False) : ∀ c ∈ t.head?, c ≠ a := by
  intro c hc same
  cases t with
  | nil => cases hc
  | cons d t =>
      cases hc
      exact h t (by rw [same])

theorem readFrom_error {n t e} (h : readFrom n t = .error e) :
    ∃ before behind, FailsAt n t e before behind := by
  -- each case that reads on has read a template by itself, and what goes wrong does so behind it
  have empty : ∀ m, readFrom m [] = .ok ⟨[], []⟩ := fun m => by rw [readFrom]
  fun_induction readFrom n t generalizing e with
  | case1 => cases h
  | case2 n t ih =>
      obtain ⟨before, behind, fails⟩ := ih (map_error h)
      have whole : readFrom n ['\x7b', '\x7b'] = .ok ⟨[], ['\x7b']⟩ := by
        rw [readFrom, empty]
        rfl
      exact ⟨_, _, fails.behind whole⟩
  | case3 n t ih =>
      obtain ⟨before, behind, fails⟩ := ih (map_error h)
      have whole : readFrom n ['\x7d', '\x7d'] = .ok ⟨[], ['\x7d']⟩ := by
        rw [readFrom, empty]
        rfl
      exact ⟨_, _, fails.behind whole⟩
  | case4 n t single =>
      cases h
      exact ⟨_, _, .here (.singleBrace rfl (head_ne single)) rfl⟩
  | case5 n t single f seen scanned =>
      cases h
      exact ⟨_, _, .here (.scan rfl (head_ne single) (scanBody_error scanned)) rfl⟩
  | case6 n t _ body rest scanned e' failed =>
      cases h
      obtain ⟨rfl, braceless, closes⟩ := scanBody_iff.mp scanned
      obtain ⟨fault, place⟩ :=
        placeholder_error ⟨rfl, braceless, closes_zero.mp closes⟩ failed
      exact ⟨_, _, .here fault place⟩
  | case7 n t _ body rest scanned p made ih =>
      obtain ⟨rfl, braceless, closes⟩ := scanBody_iff.mp scanned
      have alone : scanBody 0 (body ++ ['\x7d']) = .ok (body, []) :=
        scanBody_iff.mpr ⟨rfl, braceless, closes⟩
      have whole : readFrom n ('\x7b' :: (body ++ ['\x7d'])) = .ok (addPlaceholder p ⟨[], []⟩) := by
        rw [readFrom_open alone made, empty]
        rfl
      obtain ⟨before, behind, fails⟩ := ih (map_error h)
      have length : ('\x7b' :: (body ++ ['\x7d'])).length = body.length + 2 := by simp
      rw [Nat.add_assoc, ← length] at fails
      have placed := fails.behind whole
      simp only [List.cons_append, List.append_assoc, List.nil_append] at placed
      exact ⟨_, _, placed⟩
  | case8 n c t _ _ close opens ih =>
      have plain : ¬ (c = '\x7b' ∨ c = '\x7d') := fun hc => hc.elim opens close
      have whole : readFrom n [c] = .ok ⟨[], [c]⟩ := by
        rw [readFrom_char plain, empty]
        rfl
      obtain ⟨before, behind, fails⟩ := ih (map_error h)
      exact ⟨_, _, fails.behind whole⟩

/-! ## Templates one behind the other -/

theorem append_literals {T U : Template} {init last first rest}
    (h : T.literals = init ++ [last]) (k : U.literals = first :: rest) :
    (T.append U).literals = init ++ (last ++ first) :: rest := by
  obtain ⟨spans, tail⟩ := T
  obtain ⟨more, behind⟩ := U
  obtain ⟨rfl, rfl⟩ : spans.map (·.1) = init ∧ tail = last := by simpa [literals] using h
  cases more with
  | nil =>
      obtain ⟨rfl, rfl⟩ : behind = first ∧ [] = rest := by simpa [literals] using k
      simp [append, literals]
  | cons s more =>
      obtain ⟨rfl, rfl⟩ : s.1 = first ∧ more.map (·.1) ++ [behind] = rest := by
        simpa [literals] using k
      simp [append, literals]

theorem append_placeholders (T U : Template) :
    (T.append U).placeholders = T.placeholders ++ U.placeholders := by
  obtain ⟨more, behind⟩ := U
  cases more with
  | nil => simp [append, placeholders]
  | cons s more => simp [append, placeholders]

theorem movedBy_literals (k : Nat) (T : Template) : (T.movedBy k).literals = T.literals := by
  simp [movedBy, literals, Function.comp_def]

theorem movedBy_placeholders (k : Nat) (T : Template) :
    (T.movedBy k).placeholders = T.placeholders.map (Placeholder.movedBy k) := by
  simp [movedBy, placeholders, Function.comp_def]

theorem read_append {t T} (h : read t = .ok T) (u : Text) :
    read (t ++ u) = (resultMovedBy t.length (read u)).map T.append := by
  unfold read at h ⊢
  rw [readFrom_append h, readFrom_moved]

/-- Behind a template, a template is read as if it stood alone, and a text that is none goes wrong
    where it does alone; both are only counted on from the end of the first. And a text that is no
    template goes wrong behind one, at the start of what its fault shows or of the placeholder
    whose reference cannot be read. -/
theorem read_compositional (t u : Text) :
    (∀ T, read t = .ok T →
      (∀ U, read u = .ok U → ∃ V init last first rest, read (t ++ u) = .ok V ∧
        T.literals = init ++ [last] ∧ U.literals = first :: rest ∧
        V.literals = init ++ (last ++ first) :: rest ∧
        V.placeholders = T.placeholders ++ U.placeholders.map (Placeholder.movedBy t.length)) ∧
      ∀ e, read u = .error e → read (t ++ u) = .error (e.movedBy t.length)) ∧
    ∀ e, read u = .error e →
      e.position < u.length ∧ (∃ T, read (u.take e.position) = .ok T) ∧
        FaultAt (u.drop e.position) e.fault e.fragment ∧
        (e.fragment <+: u.drop e.position ∨
          ∃ body rest front spec fault, InBraces body rest (u.drop e.position) ∧
            Splits body front spec ∧ e.fault = .badReference fault ∧
            e.fragment = Text.trim front) := by
  refine ⟨fun T h => ⟨fun U k => ?_, fun e k => ?_⟩, fun e h => ?_⟩
  · obtain ⟨init, last, ends⟩ : ∃ init last, T.literals = init ++ [last] := ⟨_, _, rfl⟩
    obtain ⟨first, rest, starts⟩ : ∃ first rest, U.literals = first :: rest :=
      List.exists_cons_of_ne_nil (by simp [literals])
    refine ⟨T.append (U.movedBy t.length), init, last, first, rest, ?_, ends, starts, ?_, ?_⟩
    · rw [read_append h, k]
      rfl
    · exact append_literals ends ((movedBy_literals _ U).trans starts)
    · rw [append_placeholders, movedBy_placeholders]
  · rw [read_append h, k]
    rfl
  · obtain ⟨before, behind, text_eq, accepted, position, fault⟩ := readFrom_error h
    rw [Nat.zero_add] at position
    subst text_eq
    rw [position, List.take_left, List.drop_left]
    have shown := List.length_pos_of_ne_nil fault.ne_nil
    refine ⟨?_, accepted, fault, fault.fragment⟩
    rw [List.length_append]
    omega

/-- A placeholder between literal braces, in front of a template and of one with a bad reference. -/
theorem read_compositional_braces :
    let t : Text := "\x7b\x7b\x7bx\x7d"
    let u : Text := "\x7d\x7d\x7b0\x7d"
    let v : Text := "!\x7b1x\x7d"
    (∃ V, read (t ++ u) = .ok V ∧ V.placeholders.map (·.position) = [2, 7]) ∧
      read (t ++ v) = .error ⟨.badReference (.unexpected 'x'), "1x", 6⟩ ∧
      ∃ T, read (v.take 1) = .ok T := by
  intro t u v
  have first : read t =
      .ok ⟨[(['\x7b'], ⟨"\x7bx\x7d", "x", none, 2, ⟨"x", .name "x", []⟩⟩)], []⟩ := by cbv
  have second : read u =
      .ok ⟨[(['\x7d'], ⟨"\x7b0\x7d", "0", none, 2, ⟨"0", .index 0, []⟩⟩)], []⟩ := by cbv
  have third : read v = .error ⟨.badReference (.unexpected 'x'), "1x", 1⟩ := by cbv
  obtain ⟨V, _, _, _, _, joined, -, -, -, placed⟩ := ((read_compositional t u).1 _ first).1 _ second
  obtain ⟨behind, alone⟩ := read_compositional t v
  refine ⟨⟨V, joined, ?_⟩, (behind _ first).2 _ third, (alone _ third).2.1⟩
  rw [placed]
  rfl

end Stencil.Template

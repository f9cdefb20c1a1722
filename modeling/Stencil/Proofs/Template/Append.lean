import Stencil.Proofs.Template.Grammar

/-! # Templates one behind the other

What is read behind a template does not depend on it: a text that follows a
template is read as if it stood alone, only that its places are counted on, and
the literal texts that meet become one. This holds whatever characters meet,
because a template never ends inside of doubled braces or of a placeholder.
-/

namespace Stencil

/-- A placeholder that stands farther on. -/
def Placeholder.movedBy (k : Nat) (p : Placeholder) : Placeholder :=
  { p with position := p.position + k }

/-- A fault that shows farther on. -/
def TemplateError.movedBy (k : Nat) (e : TemplateError) : TemplateError :=
  { e with position := e.position + k }

namespace Template

/-- A template that begins farther on. -/
def movedBy (k : Nat) (t : Template) : Template :=
  { t with spans := t.spans.map fun s => (s.1, s.2.movedBy k) }

/-- A template with another one behind it. -/
def append (t u : Template) : Template :=
  match u.spans with
  | [] => ⟨t.spans, t.tail ++ u.tail⟩
  | (l, p) :: spans => ⟨t.spans ++ (t.tail ++ l, p) :: spans, u.tail⟩

theorem empty_append (u : Template) : append ⟨[], []⟩ u = u := by
  obtain ⟨spans, tail⟩ := u
  cases spans <;> rfl

theorem addChar_append (c : Char) (t u : Template) :
    addChar c (t.append u) = (addChar c t).append u := by
  obtain ⟨spans, tail⟩ := t
  obtain ⟨more, last⟩ := u
  cases spans <;> cases more <;> rfl

theorem addPlaceholder_append (p : Placeholder) (t u : Template) :
    addPlaceholder p (t.append u) = (addPlaceholder p t).append u := by
  obtain ⟨more, last⟩ := u
  cases more <;> rfl

theorem movedBy_addChar (k : Nat) (c : Char) (t : Template) :
    (addChar c t).movedBy k = addChar c (t.movedBy k) := by
  obtain ⟨spans, tail⟩ := t
  cases spans <;> rfl

/-! ## Reading behind a template -/

theorem scanBody_append {d t body rest} (h : scanBody d t = .ok (body, rest)) (u : Text) :
    scanBody d (t ++ u) = .ok (body, rest ++ u) := by
  obtain ⟨text, braceless, closes⟩ := scanBody_iff.mp h
  exact scanBody_iff.mpr ⟨by simp [text], braceless, closes⟩

theorem map_map {α β γ ε : Type} (f : α → β) (g : β → γ) (r : Except ε α) :
    (r.map f).map g = r.map fun a => g (f a) := by
  cases r <;> rfl

/-- The text behind a template is read from the place where the template ends. -/
theorem readFrom_append {n t T} (h : readFrom n t = .ok T) (u : Text) :
    readFrom n (t ++ u) = (readFrom (n + t.length) u).map T.append := by
  fun_induction readFrom n t generalizing T with
  | case1 n =>
      cases h
      have same : append ⟨[], []⟩ = id := funext empty_append
      cases read : readFrom n u <;> simp [same, Except.map, read]
  | case2 n t ih =>
      obtain ⟨T, read, rfl⟩ := map_ok h
      rw [List.cons_append, List.cons_append, readFrom, ih read, map_map]
      simp only [addChar_append, List.length_cons]
      congr 2
      omega
  | case3 n t ih =>
      obtain ⟨T, read, rfl⟩ := map_ok h
      rw [List.cons_append, List.cons_append, readFrom, ih read, map_map]
      simp only [addChar_append, List.length_cons]
      congr 2
      omega
  | case4 => cases h
  | case5 => cases h
  | case6 => cases h
  | case7 n t _ body rest scanned p made ih =>
      obtain ⟨T, read, rfl⟩ := map_ok h
      rw [List.cons_append, readFrom_open (scanBody_append scanned u) made, ih read, map_map]
      have length := scanBody_length scanned
      simp only [addPlaceholder_append, List.length_cons]
      congr 2
      omega
  | case8 n c t _ _ close opens ih =>
      obtain ⟨T, read, rfl⟩ := map_ok h
      have plain : ¬ (c = '\x7b' ∨ c = '\x7d') := fun hc => hc.elim opens close
      rw [List.cons_append, readFrom_char plain, ih read, map_map]
      simp only [addChar_append, List.length_cons]
      congr 2
      omega

/-! ## Reading farther on -/

/-- The result of reading a text that stands farther on. -/
def resultMovedBy (k : Nat) (r : Except TemplateError Template) : Except TemplateError Template :=
  (r.map (movedBy k)).mapError (TemplateError.movedBy k)

theorem resultMovedBy_addChar (k : Nat) (c : Char) (r : Except TemplateError Template) :
    resultMovedBy k (r.map (addChar c)) = (resultMovedBy k r).map (addChar c) := by
  cases r with
  | error => rfl
  | ok t => exact congrArg Except.ok (movedBy_addChar k c t)

theorem resultMovedBy_addPlaceholder (k : Nat) (p : Placeholder)
    (r : Except TemplateError Template) :
    resultMovedBy k (r.map (addPlaceholder p)) =
      (resultMovedBy k r).map (addPlaceholder (p.movedBy k)) := by
  cases r <;> rfl

theorem placeholder_moved (body : Text) (n k : Nat) :
    placeholder body (n + k) =
      ((placeholder body n).map (Placeholder.movedBy k)).mapError (TemplateError.movedBy k) := by
  simp only [placeholder]
  split
  · rfl
  · split
    · rfl
    · split <;> rfl

/-- Where a text stands shows in the places only. -/
theorem readFrom_moved (n k : Nat) (t : Text) :
    readFrom (n + k) t = resultMovedBy k (readFrom n t) := by
  fun_induction readFrom n t with
  | case1 n =>
      rw [readFrom]
      rfl
  | case2 n t ih =>
      rw [readFrom, resultMovedBy_addChar, ← ih]
      congr 2
      omega
  | case3 n t ih =>
      rw [readFrom, resultMovedBy_addChar, ← ih]
      congr 2
      omega
  | case4 n t other =>
      rw [readFrom]
      · rfl
      · exact other
  | case5 n t other f seen scanned =>
      rw [readFrom]
      · split
        · rename_i same
          cases scanned.symm.trans same
          rfl
        · rename_i same
          cases scanned.symm.trans same
      · exact other
  | case6 n t other body rest scanned e made =>
      have moved : placeholder body (n + k) = .error (e.movedBy k) := by
        rw [placeholder_moved, made]
        rfl
      rw [readFrom]
      · split
        · rename_i same
          cases scanned.symm.trans same
        · rename_i same
          cases scanned.symm.trans same
          rw [moved]
          rfl
      · exact other
  | case7 n t other body rest scanned p made ih =>
      have moved : placeholder body (n + k) = .ok (p.movedBy k) := by
        rw [placeholder_moved, made]
        rfl
      rw [readFrom_open scanned moved, resultMovedBy_addPlaceholder, ← ih]
      congr 2
      omega
  | case8 n c t _ _ close opens ih =>
      have plain : ¬ (c = '\x7b' ∨ c = '\x7d') := fun hc => hc.elim opens close
      rw [readFrom_char plain, resultMovedBy_addChar, ← ih]
      congr 2
      omega

end Template

end Stencil

import Stencil.Directive
import Stencil.Proofs.Layout.Respaced
import Stencil.Proofs.Value.Folded
import Stencil.Proofs.Value.Shown

/-! # Debug directives print literals

What the array, compact and expanded directives print of a value that holds a
plain literal is read as that literal. The array directive respaces lists and
leaves or expands everything else, the compact one has nothing to fold because
literals are shown on one line, and the expanded one denotes the literal with
every padding.
-/

namespace Stencil

open Literal

/-! ## Nothing to fold -/

theorem fold_printable {t : Text} (h : ∀ c ∈ t, isPrintable c) : t.fold = t :=
  Text.fold_unbroken fun c hc => printable_not_lineBreak (h c hc)

/-! ## Layouts -/

namespace Store

variable {s : Store}

theorem Holds.layOut {v l c t} (h : s.Holds v l) (e : l.display = c :: t)
    (hc : c ≠ '[' ∧ c ≠ '\x7b') : (s.layOut v).1 = l.display := by
  rw [Store.layOut, h.debugText, e]
  split
  · rename_i e
    cases e
    exact absurd rfl hc.1
  · rename_i e
    cases e
    exact absurd rfl hc.2
  · rfl

theorem Holds.layOut_braces {v l t} (h : s.Holds v l) (e : l.display = '\x7b' :: t) :
    (s.layOut v).1 = l.display ∨ (s.layOut v).1 = s.expand Layout.standardIndent v := by
  rw [Store.layOut, h.debugText, e]
  change (ite _ _ _ : Text × Option Text).1 = _ ∨ (ite _ _ _ : Text × Option Text).1 = _
  split
  · exact .inl rfl
  · exact .inr rfl

theorem read_layArray {t xs trail} (h : DenotesItems t xs trail) (depth : Int) :
    Literal.read (Layout.layArray ('[' :: (t ++ [']'])) depth) = .ok (.list xs) := by
  obtain ⟨u, e⟩ := Layout.layArray_head (t ++ [']']) depth
  have respaced := Layout.layArray_respaced ('[' :: (t ++ [']'])) depth
  rw [e] at respaced ⊢
  exact read_respaced h respaced

theorem Holds.read_layOut {v l} (h : s.Holds v l) (hp : Plain l) :
    Literal.read (s.layOut v).1 = .ok l := by
  have word : ∀ {w token}, Lexeme w token → l.display = w →
      Literal.read (s.layOut v).1 = .ok l := by
    intro w token hw e
    obtain ⟨c, t, ew, -⟩ := hw.start
    rw [h.layOut (e.trans ew) (hw.head ew)]
    exact hp.denotes.read
  have denotes := hp.denotes
  have expanded := expandFrom_holds h hp Layout.standardIndent 0 .nil
  cases hp with
  | none => exact word lexeme_none rfl
  | bool b =>
      cases b with
      | false => exact word (lexeme_bool false) rfl
      | true => exact word (lexeme_bool true) rfl
  | int i =>
      cases i with
      | ofNat n => exact word (lexeme_number n) rfl
      | negSucc n =>
          rw [h.layOut (c := '-') rfl (by decide)]
          exact denotes.read
  | text t => exact word (lexeme_quoted t) rfl
  | bytes bs => exact word (lexeme_bytes bs) rfl
  | @list xs plain =>
      have items := DenotesItems.displayAll fun x hx => (plain x hx).denotes
      rw [Store.layOut, h.debugText, Literal.display]
      exact read_layArray items _
  | @tuple xs =>
      rw [h.layOut (display_tuple xs) (by decide)]
      exact denotes.read
  | @dict es =>
      rcases h.layOut_braces rfl with e | e
      · rw [e]
        exact denotes.read
      · rw [e]
        exact expanded.read

theorem Holds.read_compactText {v l} (h : s.Holds v l) (hp : Plain l) :
    Literal.read (s.compactText v) = .ok l := by
  rw [Store.compactText, h.debugText, fold_printable hp.printable]
  exact hp.denotes.read

theorem Holds.read_expand {v l} (h : s.Holds v l) (hp : Plain l) (indent : Int) :
    Literal.read (s.expand indent v) = .ok l :=
  (expandFrom_holds h hp indent 0 .nil).read

end Store

/-! ## Directives -/

namespace Directive

/-- Under a spec a value renders to text, and the text is read as a literal. -/
def PrintsLiteral (w : World) (spec : Text) (v : Value) (l : Literal) : Prop :=
  ∃ d t, ofSpec? (some spec) = some d ∧ ((d.render v).run w).1 = .ok t ∧ Literal.read t = .ok l

/-- The array, compact and expanded directives print every value that holds a plain literal as
    text that is read as this literal, and so does expanding with any padding. -/
theorem debug_text_reads_back {w : World} {v : Value} {l : Literal} (h : w.store.Holds v l)
    (hp : Plain l) :
    PrintsLiteral w "a" v l ∧ PrintsLiteral w "c" v l ∧ PrintsLiteral w "j" v l ∧
      ∀ indent, Literal.read (w.store.expand indent v) = .ok l := by
  refine ⟨?_, ?_, ?_, h.read_expand hp⟩
  · exact ⟨array, _, rfl, rfl, h.read_layOut hp⟩
  · exact ⟨compact, _, rfl, rfl, h.read_compactText hp⟩
  · exact ⟨expanded, _, rfl, rfl, h.read_expand hp Layout.standardIndent⟩

/-- Text that looks like the seam of two rows, in front of a tuple that lies in two places. -/
theorem debug_text_reads_back_shared :
    let w : World := .begin [.list [.text "], ['\"", .ref 1, .ref 1], .tuple [.nothing]] []
    let pair : Literal := .tuple [.scalar .none]
    let l : Literal := .list [.scalar (.text "], ['\""), pair, pair]
    w.store.Holds (.ref 0) l ∧ Plain l ∧ PrintsLiteral w "a" (.ref 0) l ∧
      PrintsLiteral w "c" (.ref 0) l ∧ PrintsLiteral w "j" (.ref 0) l ∧
      ∀ indent, Literal.read (w.store.expand indent (.ref 0)) = .ok l := by
  intro w pair l
  have held : w.store.Holds (.ref 1) pair :=
    .tuple rfl rfl (by simpa using Store.Holds.scalar)
  have holds : w.store.Holds (.ref 0) l :=
    .list rfl rfl (by simpa using ⟨Store.Holds.scalar, held⟩)
  have plain : Plain l :=
    .list (by simpa using ⟨Plain.text _, Plain.tuple (by simpa using Plain.none)⟩)
  exact ⟨holds, plain, debug_text_reads_back holds plain⟩

end Directive

end Stencil

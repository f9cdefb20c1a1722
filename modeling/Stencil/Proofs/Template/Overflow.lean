import Stencil.Failure
import Stencil.Proofs.Literal.Overflow
import Stencil.Proofs.Reference.Printed
import Stencil.Proofs.Template.Fault

/-! # Faults of parsing

A text that is no reference or no template is reported as such, with one
exception: an integer in brackets that is out of the range of floats, in a text
that also has an imaginary number, may stop the reading of a literal with an
overflow. The search for closing brackets never comes to a bracket when none is
open.
-/

namespace Stencil

open Literal Template

namespace Reference

/-! ## The search for closing brackets -/

inductive Search where
  | found (offset : Nat)
  /-- The text ends, or a bracket of the wrong kind closes. -/
  | unbalanced
  /-- A bracket closes and none is open. -/
  | emptied
  deriving DecidableEq

/-- The search for the bracket that closes the last of those that are open, with a look at whether
    there is one before it is taken off. -/
def searchFrom (expected : List Char) (p : Place) (offset : Nat) : Text → Search
  | [] => .unbalanced
  | c :: t =>
      if p.quotes c then searchFrom expected (p.after c) (offset + 1) t
      else match closer? c with
        | some d => searchFrom (d :: expected) p (offset + 1) t
        | none =>
            if c == ')' || c == ']' then
              match expected with
              | [] => .emptied
              | d :: outer =>
                  if c != d then .unbalanced
                  else if outer.isEmpty then .found offset
                  else searchFrom outer p (offset + 1) t
            else searchFrom expected p (offset + 1) t

def Search.ofOption : Option Nat → Search
  | some i => .found i
  | none => .unbalanced

/-- As long as a bracket is open, the search never comes to one that closes none. -/
theorem searchFrom_eq {expected : List Char} (opened : expected ≠ []) (p : Place) (n : Nat)
    (t : Text) :
    searchFrom expected p n t = .ofOption ((findCloserFrom expected p t).map (n + ·)) := by
  induction t generalizing expected p n with
  | nil => rfl
  | cons c t ih =>
      have further {expected' : List Char} (opened' : expected' ≠ []) (p' : Place) :
          searchFrom expected' p' (n + 1) t =
            .ofOption (((findCloserFrom expected' p' t).map (· + 1)).map (n + ·)) := by
        rw [ih opened', Option.map_map]
        congr 2
        funext i
        simp only [Function.comp_apply]
        omega
      simp only [searchFrom, findCloserFrom]
      by_cases quoted : p.quotes c
      · rw [if_pos quoted, if_pos quoted]
        exact further opened (p.after c)
      · rw [if_neg quoted, if_neg quoted]
        cases closer? c with
        | some d => exact further (List.cons_ne_nil d expected) p
        | none =>
            simp only
            split
            · cases expected with
              | nil => exact absurd rfl opened
              | cons d outer =>
                  simp only
                  split
                  · rfl
                  · split
                    · rfl
                    · rename_i more
                      apply further _ p
                      rintro rfl
                      exact more rfl
            · exact further opened p

/-! ## References -/

/-- The text that is read as a literal for what stands in brackets: arguments are a tuple. -/
def bracketSource (opening : Char) (inner : Text) : Text :=
  if opening = '[' then inner else '(' :: inner ++ [',', ')']

/-- Somewhere in a text a bracket is closed, and in what it holds are written an integer out of the
    range of floats and an imaginary number. -/
def Overflows (t : Text) : Prop :=
  ∃ c rest i, c :: rest <:+ t ∧ findCloser c rest = some i ∧
    Literal.Overflows (Text.trim (bracketSource c (rest.take i)))

theorem Overflows.grow {t u : Text} (h : Overflows t) (part : t <:+ u) : Overflows u := by
  obtain ⟨c, rest, i, inside, found, large⟩ := h
  exact ⟨c, rest, i, inside.trans part, found, large⟩

theorem readLiteral_overflow {source : Text} (h : readLiteral source = .error .overflow) :
    Literal.Overflows (Text.trim source) := by
  unfold readLiteral at h
  split at h
  · cases h
  · cases h
  · rename_i overflow
    exact Literal.read_overflow overflow

theorem bracketStep_overflow {c : Char} {inner : Text}
    (h : bracketStep c inner = .error .overflow) :
    Literal.Overflows (Text.trim (bracketSource c inner)) := by
  unfold bracketStep at h
  unfold bracketSource
  split at h
  · rename_i item
    rw [if_pos item]
    exact readLiteral_overflow (map_error h)
  · rename_i call
    rw [if_neg call]
    split at h
    · cases h
    · exact readLiteral_overflow (map_error h)

theorem readStep_overflow {c : Char} {t : Text} (h : readStep c t = .error .overflow) :
    Overflows (c :: t) := by
  unfold readStep at h
  split at h
  · split at h <;> cases h
  · split at h
    · split at h
      · rename_i i found
        exact ⟨c, t, i, List.suffix_rfl, found, bracketStep_overflow (map_error h)⟩
      · cases h
    · cases h

theorem readSteps_overflow {t : Text} (h : readSteps t = .error .overflow) : Overflows t := by
  fun_induction readSteps t with
  | case1 => cases h
  | case2 t c u start fault failed =>
      cases h
      have here := readStep_overflow failed
      rw [← start] at here
      exact here.grow (List.dropWhile_suffix _)
  | case3 t c u start step rest taken ih =>
      have behind := ih (map_error h)
      obtain ⟨w, source, -⟩ := readStep_iff.mp taken
      have part : rest <:+ Text.trimStart t := by
        rw [start, source]
        exact List.suffix_append w rest
      exact behind.grow (part.trans (List.dropWhile_suffix _))

/-- Reading a reference overflows only where brackets have an integer out of the range of floats
    and an imaginary number in them. -/
theorem read_overflow {t : Text} (h : read t = .error .overflow) : Overflows (Text.trim t) := by
  simp only [read] at h
  split at h
  · cases h
  · rename_i head rest started
    obtain ⟨w, source, -⟩ := readHead?_iff.mp started
    have part : rest <:+ Text.trim t := by
      rw [source]
      exact List.suffix_append w rest
    exact (readSteps_overflow (map_error h)).grow part

end Reference

/-! ## Templates -/

namespace Template

theorem Splits.prefix {body front : Text} {spec : Option Text} (h : Splits body front spec) :
    front <+: body := by
  cases spec with
  | none => exact h.2 ▸ List.prefix_rfl
  | some s => exact ⟨':' :: s, h.2.1.symm⟩

/-- The reference that cannot be read is a part of the template. -/
theorem FaultAt.reference {v fragment : Text} {fault : ReferenceFault}
    (h : FaultAt v (.badReference fault) fragment) :
    fragment <:+: v ∧ Reference.read fragment = .error fault := by
  cases h with
  | scan _ _ failed => cases failed
  | badReference braces splits visible unread =>
      rename_i body rest front spec
      obtain ⟨g, g', split, -⟩ := Text.trim_split front
      have inside : Text.trim front <:+: front := ⟨g, g', split.symm⟩
      have behind : body <:+: v := by
        refine ⟨['\x7b'], '\x7d' :: rest, ?_⟩
        rw [braces.text, List.singleton_append, List.cons_append]
      exact ⟨(inside.trans splits.prefix.isInfix).trans behind, unread⟩

end Template

/-! ## Parsing -/

/-- A text that is no reference is reported with all of its text, and one that is no template with a
    position in it. The report is an overflow only where a bracket and the one that closes it have
    an integer out of the range of floats and an imaginary number between them. And the search for
    a closing bracket never meets one that closes nothing: it finds the bracket or the text is
    unbalanced. -/
theorem parsing_fails_by_syntax_or_overflow (t : Text) :
    (∀ failure, (Reference.read t).mapError (Failure.reference · t) = .error failure →
        ∃ f, failure = .reference f t ∧ (f = .overflow → Reference.Overflows (Text.trim t))) ∧
      (∀ e, Template.read t = .error e →
        e.position < t.length ∧ (e.fault = .badReference .overflow →
          e.fragment <:+: t ∧ Reference.Overflows (Text.trim e.fragment))) ∧
      ∀ o d, Reference.closer? o = some d →
        Reference.searchFrom [d] .outside 0 t = .ofOption (Reference.findCloser o t) := by
  refine ⟨fun failure h => ?_, fun e h => ?_, fun o d opens => ?_⟩
  · cases read : Reference.read t with
    | ok r =>
        rw [read] at h
        cases h
    | error f =>
        rw [read] at h
        cases h
        refine ⟨f, rfl, ?_⟩
        rintro rfl
        exact Reference.read_overflow read
  · obtain ⟨before, behind, fails⟩ := readFrom_error h
    have text := fails.text
    have position := fails.position
    have fault := fails.fault
    have shown := List.length_pos_of_ne_nil fault.ne_nil
    constructor
    · rw [text, List.length_append]
      omega
    · intro overflow
      rw [overflow] at fault
      obtain ⟨part, unread⟩ := fault.reference
      refine ⟨part.trans ?_, Reference.read_overflow unread⟩
      rw [text]
      exact (List.suffix_append before behind).isInfix
  · rw [Reference.searchFrom_eq (List.cons_ne_nil d []), Reference.findCloser, opens]
    simp

/-- A bracket that nothing closes, in a reference and in a template. -/
theorem parsing_fails_by_syntax_or_overflow_bracket :
    let t : Text := "!\x7bx[1\x7d"
    let unread : TemplateError := ⟨.badReference (.unbalanced '['), "x[1", 1⟩
    Template.read t = .error unread ∧ unread.position < t.length ∧
      Reference.searchFrom [']'] .outside 0 "1" = .unbalanced := by
  intro t unread
  have read : Template.read t = .error unread := by cbv
  obtain ⟨-, placed, -⟩ := parsing_fails_by_syntax_or_overflow t
  obtain ⟨-, -, search⟩ := parsing_fails_by_syntax_or_overflow "1"
  exact ⟨read, (placed unread read).1, search '[' ']' rfl⟩

/-! ## An overflow -/

theorem limit_le_power : Binary64.limit ≤ 10 ^ 309 := by decide +kernel

/-- The imaginary unit is a word. -/
theorem lexeme_imaginary :
    Lexeme "1j" (.number (.complex (.zero false) (.ofDecimal false 1 0))) where
  start := ⟨'1', "j", rfl, rfl⟩
  solid := solid_plain (List.all_iff_forall_prop.mp (by decide))
  printable := List.all_iff_forall_prop.mp (by decide)
  level _ := rfl
  read rest hr := by
    have decimal : readDecimal ('1' :: 'j' :: rest) =
        some (.complex (.zero false) (.ofDecimal false 1 0), rest) := rfl
    change readToken ('1' :: 'j' :: rest) = _
    simp [readToken, readNumeral, readNumber, decimal, hr.head_not_name, isMark, isQuote]

/-- A number that is added to another one is parsed as a sum. -/
theorem whole_sum (s u : Scalar) :
    Parse.whole 4 [.number s, .mark '+', .number u] =
      some (.sum (.constant s) false (.constant u), []) := by
  rfl

/-- A sum of a natural number out of the range of floats and the imaginary unit overflows. -/
theorem read_large_sum {n : Nat} (large : Binary64.limit ≤ n) :
    Literal.read (natText n ++ '+' :: "1j") = .error .overflow := by
  have unit : Spelled 0 "1j" [.number (.complex (.zero false) (.ofDecimal false 1 0))] :=
    .word lexeme_imaginary (t := []) (by simp [EndsWord]) (.tail (by simp))
  have sum := Spelled.word (lexeme_number n) (t := '+' :: "1j") (by simp [EndsWord, isMark])
    (.mark rfl unit)
  have far : Binary64.ofInt? n = none := (Binary64.ofInt?_eq_none_iff n).mpr large
  rw [Literal.read, sum.tokens (List.cons_ne_nil _ _)]
  simp [whole_sum, Expression.evaluate, Expression.signedNumber?, Expression.number?, addComplex,
    far]

theorem unit_chars : ∀ c ∈ ('+' :: "1j" : Text),
    isQuote c = false ∧ c ∉ ['(', ')', '[', ']'] ∧ isBlank c = false :=
  List.all_iff_forall_prop.mp (by decide)

theorem sum_passed (n : Nat) : Reference.Sealed (natText n ++ '+' :: "1j") := by
  apply (Reference.sealed_natText n).append (.chars _)
  intro c hc
  obtain ⟨quote, bracket, -⟩ := unit_chars c hc
  exact ⟨quote, bracket⟩

theorem readLiteral_large_sum {n : Nat} (large : Binary64.limit ≤ n) :
    Reference.readLiteral (natText n ++ '+' :: "1j") = .error .overflow := by
  have visible : ∀ c ∈ natText n ++ '+' :: "1j", isBlank c = false := by
    intro c hc
    obtain digit | unit := List.mem_append.mp hc
    · exact natText_visible n c digit
    · exact (unit_chars c unit).2.2
  rw [Reference.readLiteral, (Text.Trimmed.of_visible visible).trim, read_large_sum large]

/-- The fault of a key is that of the reference. -/
theorem read_bad_key {w : Text} {f : ReferenceFault} (passed : Reference.Sealed w)
    (bad : Reference.readLiteral w = .error f) :
    Reference.read ('a' :: '[' :: (w ++ [']'])) = .error f := by
  have whole : Text.Trimmed ('a' :: (('[' :: w) ++ [']'])) := .between rfl rfl
  have found := Reference.findCloser_sealed (o := '[') (c := ']') rfl (by simp) passed []
  have failed : Reference.readStep '[' (w ++ [']']) = .error f := by
    rw [Reference.readStep, if_neg (by decide), if_pos (by decide), found]
    simp [Reference.bracketStep, bad, Except.map]
  have steps : Reference.readSteps ('[' :: (w ++ [']'])) = .error f := by
    rw [Reference.readSteps.eq_def]
    split
    · rename_i none
      cases none
    · rename_i some
      cases some
      split
      · rename_i fault
        cases failed.symm.trans fault
        rfl
      · rename_i fine
        cases failed.symm.trans fine
  have head : Reference.readHead? ('a' :: '[' :: (w ++ [']'])) =
      some (.name "a", '[' :: (w ++ [']'])) := rfl
  rw [Reference.read]
  simp only [List.cons_append] at whole
  simp only [whole.trim, head, steps]
  rfl

/-- A key of three hundred digits and an imaginary unit is no key, and is not reported as such. -/
theorem large_sum_overflows :
    let t : Text := 'a' :: '[' :: (natText (10 ^ 309) ++ '+' :: "1j" ++ [']'])
    t.length ≤ 4300 ∧ (Reference.read t).mapError (Failure.reference · t) =
      .error (.reference .overflow t) := by
  intro t
  have digits : (natText (10 ^ 309)).length ≤ 310 :=
    (Nat.length_toDigits_le_iff (by decide) (by decide)).mpr (by decide +kernel)
  constructor
  · simp only [t, List.length_cons, List.length_append]
    have rest : ("1j" : Text).length = 2 := rfl
    simp only [rest, List.length_nil]
    omega
  · rw [read_bad_key (sum_passed _) (readLiteral_large_sum limit_le_power)]
    rfl

end Stencil

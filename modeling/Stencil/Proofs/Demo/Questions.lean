import Stencil.Proofs.Demo.Sections
import Stencil.Proofs.Prompt.Answer

/-! # The questions of the demonstration

Asking goes on until a line converts, so it ends in one of two ways: with details of
the types that were asked for, each read from a line of the input, or with the end of
the input. Up to then nothing is written but questions and complaints about lines.
-/

namespace Stencil.Demo

def questions : List Text :=
  ["Your first name: ", "Your last name: ", "Your age: ", "Your height (in meters): ",
   "Are you married? (true/false): ", "What is your favorite letter? "]

/-- What is written about a line that is not taken. -/
def IsComplaint (t : Text) : Prop := t = emptyInputMessage ++ ['\n'] ∨ ∃ f, t = complaint f

/-- What asking writes: each message in turn, once more behind each complaint about a line. -/
def asked (messages : List Text) (complaints : List (List Text)) : List Text :=
  (messages.zipWith (fun m cs => rounds m cs ++ [m]) complaints).flatten

/-- Each answer has been typed as a line of its own. -/
structure Answers.TypedIn (x : Answers) (lines : List Text) : Prop where
  first : ∃ line ∈ lines, Text.trim line = x.first
  last : ∃ line ∈ lines, Text.trim line = x.last
  age : ∃ line ∈ lines, readInt? (Text.trim line) = some x.age
  height : ∃ line ∈ lines, readFloat? (Text.trim line) = some x.height
  married : ∃ line ∈ lines, readTruth (Text.trim line) = .ok x.married
  letter : ∃ line ∈ lines, Text.trim line = [x.letter]

/-! ## Asking -/

/-- How some questions end, given the complaints behind each that was asked: with a value that has a
    property, or at one of them with the end of the input. -/
inductive Ends {α : Type} (P : α → Prop) (messages : List Text) (complaints : List (List Text)) :
    Except Failure α → Prop where
  | answered {v} : P v → complaints.length = messages.length →
      Ends P messages complaints (.ok v)
  | exhausted : complaints ≠ [] → complaints.length ≤ messages.length →
      Ends P messages complaints (.error .endOfInput)

/-- Where the lines left are among those typed, the action asks questions one after the other. It
    changes nothing else. -/
def Asks {α : Type} (typed : List Text) (act : Run α) (messages : List Text) (P : α → Prop) :
    Prop :=
  ∀ w : World, inputLines w.input ⊆ typed → ∃ complaints r input,
    (∀ cs ∈ complaints, ∀ c ∈ cs, IsComplaint c) ∧ inputLines input ⊆ typed ∧
      Ends P messages complaints r ∧
      act.run w = (r, { w with input, output := w.output ++ asked messages complaints })

section Asking

variable {α β : Type} {typed : List Text}

theorem asked_one (m : Text) (cs : List Text) : asked [m] [cs] = rounds m cs ++ [m] :=
  List.append_nil _

theorem asked_append {ms ns : List Text} {cs ds : List (List Text)}
    (all : cs.length = ms.length) : asked (ms ++ ns) (cs ++ ds) = asked ms cs ++ asked ns ds := by
  unfold asked
  rw [List.zipWith_append all.symm, List.flatten_append]

theorem asked_shorter {ms ns : List Text} {cs : List (List Text)} (few : cs.length ≤ ms.length) :
    asked (ms ++ ns) cs = asked ms cs := by
  induction ms generalizing cs with
  | nil =>
      obtain rfl := List.length_eq_zero_iff.mp (Nat.le_zero.mp few)
      simp [asked]
  | cons m ms ih =>
      cases cs with
      | nil => rfl
      | cons c cs =>
          have rest := ih (Nat.le_of_succ_le_succ few)
          simp only [asked, List.cons_append, List.zipWith_cons_cons, List.flatten_cons] at rest ⊢
          rw [rest]

theorem Asks.done {v : α} {P : α → Prop} (h : P v) : Asks typed (pure v) [] P := by
  intro w within
  refine ⟨[], .ok v, w.input, List.forall_mem_nil _, within, .answered h rfl, ?_⟩
  simp only [asked, List.zipWith_nil_left, List.flatten_nil, List.append_nil]
  rfl

theorem Asks.bind {act : Run α} {next : α → Run β} {ms ns : List Text} {P : α → Prop}
    {Q : β → Prop} (h : Asks typed act ms P) (k : ∀ v, P v → Asks typed (next v) ns Q) :
    Asks typed (act >>= next) (ms ++ ns) Q := by
  intro w within
  obtain ⟨cs, r, input, each, left, ends, run⟩ := h w within
  cases ends with
  | @answered v hv all =>
      obtain ⟨ds, r, input', each', left', ends, run'⟩ :=
        k v hv { w with input, output := w.output ++ asked ms cs } left
      refine ⟨cs ++ ds, r, input', List.forall_mem_append.mpr ⟨each, each'⟩, left', ?_, ?_⟩
      · cases ends with
        | answered hu all' => exact .answered hu (by simp [all, all'])
        | exhausted some few =>
            exact .exhausted (by simp [some]) (by simp only [List.length_append]; omega)
      · rw [Run.run_bind, run]
        simp only [run', asked_append all, List.append_assoc]
  | exhausted some few =>
      refine ⟨cs, _, input, each, left, .exhausted some (by simp; omega), ?_⟩
      rw [Run.run_bind, run, asked_shorter few]

/-- Of whatever visible line is typed, the converter makes a value with a property, or it refuses
    the line; the objects it leaves as they are. -/
def Converts (typed : List Text) (c : Converter) (P : Value → Prop) : Prop :=
  ∀ line ∈ typed, Text.trim line ≠ [] → ∀ s : Store,
    (∃ v, (c.convert (Text.trim line)).run s = (.ok v, s) ∧ P v) ∨
      ∃ f, (c.convert (Text.trim line)).run s = (.error f, s) ∧ isRefusal f.kind = true

theorem Converts.declines {c : Converter} {P : Value → Prop} (h : Converts typed c P)
    {s s' : Store} {lines complaints : List Text}
    (declined : Declines c.convert s lines complaints s') (within : lines ⊆ typed) :
    s' = s ∧ ∀ t ∈ complaints, IsComplaint t := by
  induction declined with
  | none => exact ⟨rfl, List.forall_mem_nil _⟩
  | blank _ _ ih =>
      obtain ⟨-, rest⟩ := List.cons_subset.mp within
      obtain ⟨rfl, each⟩ := ih rest
      exact ⟨rfl, List.forall_mem_cons.mpr ⟨.inl rfl, each⟩⟩
  | @refused s line f s₁ _ _ _ visible run _ _ ih =>
      obtain ⟨first, rest⟩ := List.cons_subset.mp within
      have kept : s₁ = s := by
        obtain ⟨v, taken, -⟩ | ⟨g, refused, -⟩ := h line first visible s
        · cases run.symm.trans taken
        · exact (Prod.mk.inj (run.symm.trans refused)).2
      subst kept
      obtain ⟨rfl, each⟩ := ih rest
      exact ⟨rfl, List.forall_mem_cons.mpr ⟨.inr ⟨f, rfl⟩, each⟩⟩

theorem Asks.prompt {c : Converter} {P : Value → Prop} (h : Converts typed c P) (message : Text) :
    Asks typed (Stencil.prompt message c) [message] P := by
  intro w within
  obtain ⟨before, line, after, complaints, s, r, s', split, declined, accepts⟩ |
    ⟨complaints, s, declined⟩ := exists_accepted c.convert w.store (inputLines w.input)
  · rw [split] at within
    obtain ⟨among, behind⟩ := List.append_subset.mp within
    obtain ⟨first, later⟩ := List.cons_subset.mp behind
    obtain ⟨rfl, each⟩ := h.declines declined among
    have rest : inputLines w.input = (before ++ [line]) ++ after := by simp [split]
    obtain ⟨v, taken, has⟩ | ⟨f, refused, refusal⟩ := h line first accepts.visible w.store
    · cases accepts.converted.symm.trans taken
      refine ⟨[complaints], .ok v, after.flatten, List.forall_mem_singleton.mpr each, ?_,
        .answered has rfl, ?_⟩
      · rw [inputLines_behind _ rest]
        exact later
      · rw [asked_one, ← List.append_assoc]
        exact ask_first split declined accepts
    · -- a line that is refused is not accepted
      cases accepts.converted.symm.trans refused
      cases (accepts.final f rfl).symm.trans refusal
  · obtain ⟨rfl, each⟩ := h.declines declined within
    refine ⟨[complaints], _, [], List.forall_mem_singleton.mpr each, List.nil_subset _,
      .exhausted (List.cons_ne_nil _ _) (Nat.le_refl 1), ?_⟩
    rw [asked_one, ← List.append_assoc]
    exact ask_exhausted declined

end Asking

/-! ## The converters -/

section Converters

variable {typed : List Text}

theorem converts_text : Converts typed .text fun v =>
    ∃ t, v = .text t ∧ t ≠ [] ∧ ∃ line ∈ typed, Text.trim line = t := by
  intro line among visible s
  exact .inl ⟨_, rfl, _, rfl, visible, line, among, rfl⟩

theorem converts_integer : Converts typed .integer fun v =>
    ∃ i, v = .int i ∧ ∃ line ∈ typed, readInt? (Text.trim line) = some i := by
  intro line among visible s
  unfold Converter.convert
  cases read : readInt? (Text.trim line) with
  | some i => exact .inl ⟨_, rfl, i, rfl, line, among, read⟩
  | none => exact .inr ⟨_, rfl, rfl⟩

theorem converts_float : Converts typed .float fun v =>
    ∃ x, v = .float x ∧ ∃ line ∈ typed, readFloat? (Text.trim line) = some x := by
  intro line among visible s
  unfold Converter.convert
  cases read : readFloat? (Text.trim line) with
  | some x => exact .inl ⟨_, rfl, x, rfl, line, among, read⟩
  | none => exact .inr ⟨_, rfl, rfl⟩

theorem converts_truth : Converts typed .truth fun v =>
    ∃ b, v = .truth b ∧ ∃ line ∈ typed, readTruth (Text.trim line) = .ok b := by
  intro line among visible s
  unfold Converter.convert
  cases read : readTruth (Text.trim line) with
  | ok b => exact .inl ⟨_, rfl, b, rfl, line, among, read⟩
  | error f =>
      refine .inr ⟨f, rfl, ?_⟩
      unfold readTruth at read
      split at read
      · cases read
      · split at read
        · cases read
        · cases read
          rfl

theorem converts_character : Converts typed .character fun v =>
    ∃ c, v = .text [c] ∧ ∃ line ∈ typed, Text.trim line = [c] := by
  intro line among visible s
  unfold Converter.convert
  cases letters : Text.trim line with
  | nil => exact absurd letters visible
  | cons c t =>
      cases t with
      | nil => exact .inl ⟨_, rfl, c, rfl, line, among, letters⟩
      | cons d t => exact .inr ⟨_, rfl, rfl⟩

end Converters

/-- Asking for all details. -/
theorem asks_details (typed : List Text) : Asks typed askDetails questions fun d =>
    ∃ x : Answers, x.TypedIn typed ∧ d = x.details := by
  refine (Asks.prompt converts_text _).bind fun _ hv => ?_
  obtain ⟨first, rfl, visible, line₁⟩ := hv
  refine (Asks.prompt converts_text _).bind fun _ hv => ?_
  obtain ⟨last, rfl, visible', line₂⟩ := hv
  refine (Asks.prompt converts_integer _).bind fun _ hv => ?_
  obtain ⟨age, rfl, line₃⟩ := hv
  refine (Asks.prompt converts_float _).bind fun _ hv => ?_
  obtain ⟨height, rfl, line₄⟩ := hv
  refine (Asks.prompt converts_truth _).bind fun _ hv => ?_
  obtain ⟨married, rfl, line₅⟩ := hv
  refine (Asks.prompt converts_character _).bind fun _ hv => ?_
  obtain ⟨letter, rfl, line₆⟩ := hv
  exact .done ⟨⟨first, last, age, height, married, letter, visible, visible'⟩,
    ⟨line₁, line₂, line₃, line₄, line₅, line₆⟩, rfl⟩

end Stencil.Demo

import Stencil.Proofs.Demo.Questions

/-! # The interactive demonstration

No input breaks the demonstration. It ends at a question when the input does; once all
questions are answered, all of it is written.
-/

namespace Stencil.Demo

def header : Text := "=== Demonstration of printf with built-in containers ===\n"

def closing : Text := "=== End of the demonstration ===\n"

/-- What the lines of all sections begin with. -/
def Answers.captions (x : Answers) : List Text :=
  simpleCaptions x ++ (referenceCaptions x ++ numberCaptions) ++
    (sequenceCaptions ++ (mappingCaptions ++ recordCaptions))

theorem printValues_tells (x : Answers) {s : Store} : (printValues x.details).Tells s
    (simpleCaptions x ++ (referenceCaptions x ++ numberCaptions)) s :=
  (printSimple_tells x).bind ((printReferences_tells x).bind (printNumbers_tells x))

/-- What the demonstration does behind the questions. -/
def showAll (d : Details) : Run (Nat × Text) := do
  printValues d
  printSequences
  printMappings
  printRecords
  say closing []
  pure (0, [])

theorem showAll_does (x : Answers) : ∃ sections s, List.Forall₂ (· <+: ·) x.captions sections ∧
    (showAll x.details).Does [] (sections ++ [closing]) (0, []) s := by
  obtain ⟨values, values_does, values_begin⟩ := printValues_tells x (s := [])
  obtain ⟨sequences, sequences_does, sequences_begin⟩ := printSequences_tells
  obtain ⟨s₁, mappings, mappings_does, mappings_begin⟩ := printMappings_tells
  obtain ⟨s₂, records, records_does, records_begin⟩ := printRecords_tells s₁
  refine ⟨values ++ (sequences ++ (mappings ++ records)), s₂, ?_, ?_⟩
  · exact List.rel_append values_begin
      (List.rel_append sequences_begin (List.rel_append mappings_begin records_begin))
  · simp only [List.append_assoc]
    exact values_does.bind (sequences_does.bind (mappings_does.bind (records_does.bind
      ((say_does rfl).bind (.result _)))))

theorem perform_interactive : (Command.run true).perform = (do
    say header []
    let d ← askDetails
    showAll d) := by
  simp only [Command.perform, runDemo, showAll, bind_assoc, if_true]
  rfl

theorem read_interactive : Command.read ["--interactive"] = .run true := by
  cbv

/-- No input breaks the demonstration. It writes the first line and then asks, complaining about
    lines it cannot take. Either the input ends at a question, and nothing more is written; or each
    question is answered by a line of the input, and every section and the last line are written,
    the answers standing in them as they were typed, whatever they are. -/
theorem interactive_unbroken (stdin : Text) :
    let ran := (Command.read ["--interactive"]).perform.run (.begin [] stdin)
    ∃ complaints : List (List Text), (∀ cs ∈ complaints, ∀ c ∈ cs, IsComplaint c) ∧
      ((complaints ≠ [] ∧ complaints.length ≤ questions.length ∧ ran.1 = .error .endOfInput ∧
          ran.2.output = header :: asked questions complaints) ∨
        (complaints.length = questions.length ∧ ran.1 = .ok (0, []) ∧
          ∃ (x : Answers) (sections : List Text), x.TypedIn (inputLines stdin) ∧
            ran.2.output = header :: asked questions complaints ++ sections ++ [closing] ∧
            List.Forall₂ (· <+: ·) x.captions sections)) := by
  intro ran
  obtain ⟨given, started⟩ := say_does (s := []) (t := header) rfl (.begin [] stdin) rfl
  let w : World := ⟨[], [] ++ given, stdin, [] ++ [header]⟩
  have behind : ran = (do
      let d ← askDetails
      showAll d : Run (Nat × Text)).run w := by
    have performed := congrArg (fun act => act.run (.begin [] stdin)) perform_interactive
    simp only [Run.run_bind (say header []), started] at performed
    rwa [← read_interactive] at performed
  obtain ⟨complaints, r, input, each, -, ends, asking⟩ :=
    asks_details (inputLines stdin) w (List.Subset.refl _)
  refine ⟨complaints, each, ?_⟩
  rw [Run.run_bind, asking] at behind
  cases ends with
  | exhausted some few =>
      rw [behind]
      exact .inl ⟨some, few, rfl, rfl⟩
  | answered has all =>
      obtain ⟨x, typed, rfl⟩ := has
      obtain ⟨sections, s, captions, shown⟩ := showAll_does x
      obtain ⟨given', done⟩ :=
        shown { w with input, output := w.output ++ asked questions complaints } rfl
      rw [behind.trans done]
      exact .inr ⟨all, rfl, x, sections, typed, by simp [w], captions⟩

end Stencil.Demo

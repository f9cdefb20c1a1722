import Stencil.Prompt
import Stencil.Proofs.Text.Trim

/-! # Answers to prompts

A prompt takes lines off the input up to the first one that is neither blank nor
refused by the converter, or all of them. It writes its message before each line it
asks for and a complaint behind each one it does not take. Prompts that share an
input therefore share out its lines, each line going to one of them.
-/

namespace Stencil

/-! ## Lines of an input -/

/-- The lines of an input, each with the line feed that ends it; the last one may lack it. -/
def inputLines : Text → List Text
  | [] => []
  | c :: t =>
      if c = '\n' then [c] :: inputLines t
      else match inputLines t with
        | [] => [[c]]
        | line :: lines => (c :: line) :: lines

theorem cutLine_cons {c : Char} (feed : c ≠ '\n') (t : Text) :
    cutLine (c :: t) = (c :: (cutLine t).1, (cutLine t).2) := by
  rw [cutLine, if_neg feed]

/-- The first line is what is cut off, but for the line feed. -/
theorem inputLines_cut (c : Char) (t : Text) : ∃ stop, (∀ d ∈ stop, isBlank d) ∧
    inputLines (c :: t) = ((cutLine (c :: t)).1 ++ stop) :: inputLines (cutLine (c :: t)).2 := by
  by_cases feed : c = '\n'
  · subst feed
    exact ⟨['\n'], List.forall_mem_singleton.mpr rfl, rfl⟩
  · induction t generalizing c with
    | nil => exact ⟨[], List.forall_mem_nil _, by simp [inputLines, cutLine, feed]⟩
    | cons d t ih =>
        by_cases feed' : d = '\n'
        · subst feed'
          exact ⟨['\n'], List.forall_mem_singleton.mpr rfl, by simp [inputLines, cutLine, feed]⟩
        · obtain ⟨stop, blank, lines⟩ := ih d feed'
          refine ⟨stop, blank, ?_⟩
          rw [inputLines, if_neg feed, lines, cutLine_cons feed]
          rfl

theorem flatten_inputLines (t : Text) : (inputLines t).flatten = t := by
  induction t with
  | nil => rfl
  | cons c t ih =>
      rw [inputLines]
      split
      · rw [List.flatten_cons, ih]
        rfl
      · split
        · rename_i alone
          rw [alone] at ih
          rw [← ih]
          rfl
        · rename_i line lines split
          rw [split] at ih
          rw [← ih]
          rfl

theorem inputLines_nil_iff {t : Text} : inputLines t = [] ↔ t = [] := by
  cases t with
  | nil => simp [inputLines]
  | cons c t =>
      obtain ⟨stop, -, lines⟩ := inputLines_cut c t
      simp [lines]

/-- Behind some lines of an input come the others. -/
theorem inputLines_behind {t : Text} (before : List Text) {after : List Text}
    (split : inputLines t = before ++ after) : inputLines after.flatten = after := by
  induction before generalizing t with
  | nil =>
      rw [List.nil_append] at split
      rw [← split, flatten_inputLines]
  | cons line before ih =>
      cases t with
      | nil => cases split
      | cons c t =>
          obtain ⟨stop, -, lines⟩ := inputLines_cut c t
          rw [lines] at split
          exact ih (List.cons.inj split).2

theorem trim_stop {t g : Text} (blank : ∀ c ∈ g, isBlank c) :
    Text.trim (t ++ g) = Text.trim t := by
  obtain ⟨before, behind, split, hb, hb'⟩ := Text.trim_split t
  have both : ∀ c ∈ behind ++ g, isBlank c := List.forall_mem_append.mpr ⟨hb', blank⟩
  have whole : t ++ g = before ++ Text.trim t ++ (behind ++ g) := by
    rw [← List.append_assoc, ← split]
  rw [whole, Text.trim_padded hb both (Text.trimmed_trim t)]

/-! ## What becomes of a line -/

/-- The complaint about a line that the converter refuses. -/
def complaint (f : Fault) : Text := "Error: " ++ f.text ++ ['.', '\n']

/-- Lines that are blank or that the converter refuses, one after the other, with the complaints
    about them and the objects behind their conversion. -/
inductive Declines (convert : Text → Act Value) : Store → List Text → List Text → Store → Prop where
  | none {s} : Declines convert s [] [] s
  | blank {s line lines complaints s'} : Text.trim line = [] →
      Declines convert s lines complaints s' →
      Declines convert s (line :: lines) ((emptyInputMessage ++ ['\n']) :: complaints) s'
  | refused {s line f s' lines complaints s''} : Text.trim line ≠ [] →
      (convert (Text.trim line)).run s = (.error f, s') → isRefusal f.kind = true →
      Declines convert s' lines complaints s'' →
      Declines convert s (line :: lines) (complaint f :: complaints) s''

/-- A line that is not blank and gives a value, or a fault that is no refusal. -/
structure Accepts (convert : Text → Act Value) (s : Store) (line : Text) (r : Except Fault Value)
    (s' : Store) : Prop where
  visible : Text.trim line ≠ []
  converted : (convert (Text.trim line)).run s = (r, s')
  final : ∀ f, r = .error f → isRefusal f.kind = false

/-- A line is blank, refused, or accepted. -/
theorem line_cases (convert : Text → Act Value) (s : Store) (line : Text) :
    (∃ c s', ∀ lines complaints s'', Declines convert s' lines complaints s'' →
        Declines convert s (line :: lines) (c :: complaints) s'') ∨
      ∃ r s', Accepts convert s line r s' := by
  by_cases blank : Text.trim line = []
  · exact .inl ⟨_, s, fun lines complaints s'' rest => .blank blank rest⟩
  · cases run : (convert (Text.trim line)).run s with
    | mk r s' =>
        cases r with
        | ok v =>
            refine .inr ⟨.ok v, s', blank, run, fun f failed => ?_⟩
            cases failed
        | error f =>
            cases refusal : isRefusal f.kind with
            | true =>
                exact .inl ⟨_, s', fun lines complaints s'' rest => .refused blank run refusal rest⟩
            | false =>
                refine .inr ⟨.error f, s', blank, run, fun g failed => ?_⟩
                cases failed
                exact refusal

/-- Among some lines there is a first one that is accepted, or all are declined. -/
theorem exists_accepted (convert : Text → Act Value) (s : Store) (lines : List Text) :
    (∃ before line after complaints s' r s'', lines = before ++ line :: after ∧
        Declines convert s before complaints s' ∧ Accepts convert s' line r s'') ∨
      ∃ complaints s', Declines convert s lines complaints s' := by
  induction lines generalizing s with
  | nil => exact .inr ⟨[], s, .none⟩
  | cons line lines ih =>
      obtain ⟨c, s', declined⟩ | ⟨r, s', accepted⟩ := line_cases convert s line
      · obtain ⟨before, line', after, complaints, s₁, r, s₂, rfl, declines, accepts⟩ |
          ⟨complaints, s₁, declines⟩ := ih s'
        · exact .inl ⟨line :: before, line', after, c :: complaints, s₁, r, s₂, rfl,
            declined _ _ _ declines, accepts⟩
        · exact .inr ⟨c :: complaints, s₁, declined _ _ _ declines⟩
      · exact .inl ⟨[], line, lines, [], s, r, s', rfl, .none, accepted⟩

/-! ## One round of asking -/

section Rounds

variable {message : Text} {convert : Text → Act Value} {w : World} {line : Text}
  {lines : List Text}

theorem ask_end (h : inputLines w.input = []) :
    ask message convert w =
      (.error .endOfInput, { w with output := w.output ++ [message] }) := by
  rw [ask]
  split
  · rfl
  · rename_i c t started
    rw [inputLines_nil_iff, started] at h
    cases h

/-- The first line of an input is what a round takes off it. -/
theorem first_line (h : inputLines w.input = line :: lines) : ∃ c t, w.input = c :: t ∧
    Text.trim (cutLine (c :: t)).1 = Text.trim line ∧ (cutLine (c :: t)).2 = lines.flatten := by
  cases input : w.input with
  | nil =>
      rw [input] at h
      cases h
  | cons c t =>
      obtain ⟨stop, blank, cut⟩ := inputLines_cut c t
      rw [input, cut] at h
      obtain ⟨rfl, rfl⟩ := List.cons.inj h
      exact ⟨c, t, rfl, (trim_stop blank).symm, (flatten_inputLines _).symm⟩

/-- How a round ends, given what the converter makes of its line. -/
def concluded (message : Text) (convert : Text → Act Value) (w : World) (lines : List Text) :
    Except Fault Value × Store → Except Failure Value × World
  | (.ok v, s) =>
      (.ok v, { w with store := s, input := lines.flatten, output := w.output ++ [message] })
  | (.error f, s) =>
      if isRefusal f.kind then
        ask message convert { w with
          store := s
          input := lines.flatten
          output := w.output ++ [message] ++ [complaint f] }
      else (.error (.fault f),
        { w with store := s, input := lines.flatten, output := w.output ++ [message] })

/-- A round, said of the line that it takes. -/
theorem ask_line (h : inputLines w.input = line :: lines) :
    ask message convert w =
      if Text.trim line = [] then
        ask message convert { w with
          input := lines.flatten
          output := w.output ++ [message] ++ [emptyInputMessage ++ ['\n']] }
      else concluded message convert w lines ((convert (Text.trim line)).run w.store) := by
  obtain ⟨c, t, input, trimmed, rest⟩ := first_line h
  rw [ask]
  split
  · rename_i ended
    cases input.symm.trans ended
  · rename_i started
    cases input.symm.trans started
    simp only [trimmed, rest]
    refine if_congr Iff.rfl rfl ?_
    cases (convert (Text.trim line)).run w.store with
    | mk r s =>
        cases r with
        | ok v => rfl
        | error f => rfl

theorem ask_blank (h : inputLines w.input = line :: lines) (blank : Text.trim line = []) :
    ask message convert w = ask message convert
      { w with
        input := lines.flatten
        output := w.output ++ [message] ++ [emptyInputMessage ++ ['\n']] } := by
  rw [ask_line h, if_pos blank]

theorem ask_refused {f : Fault} {s : Store} (h : inputLines w.input = line :: lines)
    (visible : Text.trim line ≠ []) (run : (convert (Text.trim line)).run w.store = (.error f, s))
    (refusal : isRefusal f.kind = true) :
    ask message convert w = ask message convert
      { w with
        store := s
        input := lines.flatten
        output := w.output ++ [message] ++ [complaint f] } := by
  rw [ask_line h, if_neg visible, run, concluded, if_pos refusal]

theorem ask_accepted {r : Except Fault Value} {s : Store} (h : inputLines w.input = line :: lines)
    (accepts : Accepts convert w.store line r s) :
    ask message convert w = (r.mapError .fault,
      { w with store := s, input := lines.flatten, output := w.output ++ [message] }) := by
  rw [ask_line h, if_neg accepts.visible, accepts.converted]
  cases r with
  | ok v => rfl
  | error f =>
      rw [concluded, accepts.final f rfl, if_neg Bool.false_ne_true]
      rfl

end Rounds

/-! ## Prompts -/

section Prompts

variable {message : Text} {convert : Text → Act Value} {w : World}

/-- What is written for lines that are declined: the message for each, and the complaint. -/
def rounds (message : Text) (complaints : List Text) : List Text :=
  complaints.flatMap fun c => [message, c]

/-- Behind declined lines a prompt goes on as at its start. -/
theorem ask_declines {before rest complaints : List Text} {s s' : Store}
    (start : w.store = s) (h : inputLines w.input = before ++ rest)
    (declines : Declines convert s before complaints s') :
    ask message convert w = ask message convert
      { w with
        store := s'
        input := rest.flatten
        output := w.output ++ rounds message complaints } := by
  induction declines generalizing w with
  | none =>
      subst start
      rw [List.nil_append] at h
      rw [← h, flatten_inputLines]
      simp [rounds]
  | blank blank _ ih =>
      rw [List.cons_append] at h
      rw [ask_blank h blank, ih]
      · simp [rounds]
      · exact start
      · exact inputLines_behind [_] h
  | refused visible run refusal _ ih =>
      rw [← start] at run
      rw [List.cons_append] at h
      rw [ask_refused h visible run refusal, ih]
      · simp [rounds]
      · rfl
      · exact inputLines_behind [_] h

/-- A prompt takes the first line that is accepted. -/
theorem ask_first {before after complaints : List Text} {line : Text} {s s' : Store}
    {r : Except Fault Value} (h : inputLines w.input = before ++ line :: after)
    (declines : Declines convert w.store before complaints s)
    (accepts : Accepts convert s line r s') :
    ask message convert w = (r.mapError .fault,
      { w with
        store := s'
        input := after.flatten
        output := w.output ++ rounds message complaints ++ [message] }) := by
  rw [ask_declines rfl h declines, ask_accepted (inputLines_behind before h) accepts]

/-- A prompt that takes no line fails at the end of the input. -/
theorem ask_exhausted {complaints : List Text} {s : Store}
    (declines : Declines convert w.store (inputLines w.input) complaints s) :
    ask message convert w = (.error .endOfInput,
      { w with
        store := s
        input := []
        output := w.output ++ rounds message complaints ++ [message] }) := by
  rw [ask_declines rfl (List.append_nil _).symm declines, ask_end rfl]
  rfl

end Prompts

/-! ## Prompts that share an input -/

/-- A question: what a prompt writes and how it converts. -/
structure Question where
  message : Text
  convert : Text → Act Value

def Question.pose (q : Question) (w : World) : Except Failure Value × World :=
  ask q.message q.convert w

/-- Asks questions one after the other, whether they are answered or not. -/
def askAll (qs : List Question) (w : World) : World := qs.foldl (fun w q => (q.pose w).2) w

/-- A question takes lines off the front of the input. -/
theorem Question.exists_share (q : Question) (w : World) :
    ∃ share, inputLines w.input = share ++ inputLines (q.pose w).2.input := by
  obtain ⟨before, line, after, complaints, s, r, s', split, declines, accepts⟩ |
    ⟨complaints, s, declines⟩ := exists_accepted q.convert w.store (inputLines w.input)
  · have rest : inputLines w.input = (before ++ [line]) ++ after := by
      rw [split, List.append_assoc, List.singleton_append]
    refine ⟨before ++ [line], ?_⟩
    rw [pose, ask_first split declines accepts, inputLines_behind _ rest, rest]
  · refine ⟨inputLines w.input, ?_⟩
    rw [pose, ask_exhausted declines]
    exact (List.append_nil _).symm

/-- Questions share out the lines of the input in order. -/
theorem exists_shares (qs : List Question) (w : World) : ∃ shares : List (List Text),
    shares.length = qs.length ∧
      inputLines w.input = shares.flatten ++ inputLines (askAll qs w).input ∧
      ∀ before q after, qs = before ++ q :: after → ∃ share,
        shares[before.length]? = some share ∧
          let now := askAll before w
          inputLines now.input = share ++ inputLines (q.pose now).2.input := by
  induction qs generalizing w with
  | nil => exact ⟨[], rfl, rfl, fun before q after h => by simp at h⟩
  | cons q qs ih =>
      obtain ⟨share, taken⟩ := q.exists_share w
      obtain ⟨shares, length, whole, each⟩ := ih (q.pose w).2
      refine ⟨share :: shares, by simp [length], ?_, fun before q' after split => ?_⟩
      · rw [taken, whole, List.flatten_cons, List.append_assoc]
        rfl
      · cases before with
        | nil =>
            obtain ⟨rfl, -⟩ := List.cons.inj split
            exact ⟨share, rfl, taken⟩
        | cons q₁ before =>
            obtain ⟨rfl, rest⟩ := List.cons.inj split
            exact each before q' after rest

/-- A prompt takes the lines of the input up to the first one that is accepted and gives what that
    one converts to, or takes all of them and fails; it writes its message before each line and at
    the end, and behind each declined line the complaint. One of the two is the case. And of the
    lines that questions find on one input, each takes those behind the ones before it. -/
theorem ask_first_answer (message : Text) (convert : Text → Act Value) (w : World) :
    (∀ (before : List Text) line after complaints s r s',
        inputLines w.input = before ++ line :: after →
        Declines convert w.store before complaints s → Accepts convert s line r s' →
        ask message convert w = (r.mapError .fault,
          { w with
            store := s'
            input := after.flatten
            output := w.output ++ rounds message complaints ++ [message] })) ∧
      (∀ complaints s, Declines convert w.store (inputLines w.input) complaints s →
        ask message convert w = (.error .endOfInput,
          { w with
            store := s
            input := []
            output := w.output ++ rounds message complaints ++ [message] })) ∧
      ((∃ (before : List Text) (line : Text) (after complaints : List Text) (s : Store)
          (r : Except Fault Value) (s' : Store), inputLines w.input = before ++ line :: after ∧
          Declines convert w.store before complaints s ∧ Accepts convert s line r s') ∨
        ∃ complaints s, Declines convert w.store (inputLines w.input) complaints s) ∧
      ∀ qs, ∃ shares : List (List Text), shares.length = qs.length ∧
        inputLines w.input = shares.flatten ++ inputLines (askAll qs w).input ∧
        ∀ before q after, qs = before ++ q :: after → ∃ share,
          shares[before.length]? = some share ∧
            let now := askAll before w
            inputLines now.input = share ++ inputLines (q.pose now).2.input := by
  refine ⟨fun before line after complaints s r s' split declines accepts => ?_,
    fun complaints s declines => ?_, exists_accepted convert w.store (inputLines w.input),
    fun qs => exists_shares qs w⟩
  · exact ask_first split declines accepts
  · exact ask_exhausted declines

/-- A blank line and one that is no character, and a line of which nothing is read. -/
theorem ask_first_answer_behind :
    let before : List Text := ["\n", " ab \n"]
    let line : Text := "x\n"
    let after : List Text := ["y"]
    let w : World := .begin [] "\n ab \nx\ny"
    let convert := Converter.character.convert
    let complaints : List Text :=
      [emptyInputMessage ++ ['\n'], complaint ⟨.badValue, "too many characters in string"⟩]
    inputLines w.input = before ++ line :: after ∧ Declines convert [] before complaints [] ∧
      Accepts convert [] line (.ok (.text "x")) [] ∧
      ask "? " convert w = (.ok (.text "x"),
        { w with
          input := "y"
          output := rounds "? " complaints ++ [("? " : Text)] }) := by
  intro before line after w convert complaints
  have lines : inputLines w.input = before ++ line :: after := rfl
  have declines : Declines convert [] before complaints [] :=
    .blank rfl (.refused (by decide) rfl rfl .none)
  have accepts : Accepts convert [] line (.ok (.text "x")) [] :=
    ⟨by decide, rfl, fun f failed => by cases failed⟩
  obtain ⟨first, -, -, -⟩ := ask_first_answer "? " convert w
  exact ⟨lines, declines, accepts, first _ _ _ _ _ _ _ lines declines accepts⟩

end Stencil

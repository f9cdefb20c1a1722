import Stencil.Demo.Options
import Stencil.Proofs.Render.Line

/-! # The sections of the demonstration

Every section is written line by line, whatever the details of a person are. What the
sections need of them is that they are of the types that were asked for, and of the last
name that it has a first letter. The sections about containers need nothing at all.
-/

namespace Stencil.Demo

open Literal Reference Directive

/-! ## Details of a person -/

structure Answers where
  first : Text
  last : Text
  age : Int
  height : Binary64
  married : Bool
  letter : Char
  first_visible : first ≠ []
  last_visible : last ≠ []

namespace Answers

def details (x : Answers) : Details :=
  [("first_name", .text x.first), ("last_name", .text x.last), ("age", .int x.age),
   ("height", .float x.height), ("married", .truth x.married), ("letter", .text [x.letter])]

/-- Whether the person is married, in words. -/
def status (x : Answers) : Text := if x.married then "you are" else "you are not"

end Answers

/-! ## Lines -/

def ruleLine : Text := rule ++ ['\n']

section Lines

variable {s : Store} {a : Arguments} {caption body tail t : Text}

theorem say_does (bare : isBare t) : (say t []).Does s [t] () s := (Shows.plain bare).printed

theorem say_tells (bare : isBare t) : (say t []).Tells s [t] s := (Shows.plain bare).opens.tells

theorem rule_tells : printRule.Tells s [ruleLine] s := by
  have shown : Shows s ⟨[.text rule], []⟩ (slot "0") rule :=
    .positional 0 rfl rfl rfl rfl plain_does
  exact (shown.append (.plain rfl)).opens.tells

/-- A line with one placeholder. -/
theorem line_tells (bare : isBare caption) (bare' : isBare tail) (h : Shows s a body t) :
    (print (caption ++ body ++ tail) a).Tells s [caption ++ t ++ tail] s :=
  (((Shows.plain bare).append h).append (.plain bare')).opens.tells

/-- A line with one placeholder, by what stands in front of that. -/
theorem captioned (bare : isBare caption) (bare' : isBare tail) (h : Shows s a body t) :
    (print (caption ++ body ++ tail) a).Tells s [caption] s :=
  (((Shows.plain bare).opens.append ⟨_, h⟩).append ⟨_, .plain bare'⟩).tells

end Lines

/-! ## The sections about a person -/

section Person

variable {s : Store} (x : Answers)

def simpleCaptions : List Text :=
  ["1. Simple values:\n",
   "Hello, " ++ x.first ++ " " ++ x.last ++ ", you are " ++ intText x.age ++
    " years old, you are " ++ floatText x.height ++ " m tall, your favorite letter is '" ++
    [x.letter] ++ "', and " ++ x.status ++ " married.\n",
   ruleLine]

theorem printSimple_tells : (printSimple x.details).Tells s (simpleCaptions x) s := by
  have married : (detail x.details "married").Does s [] (.truth x.married) s :=
    .of_run fun _ _ _ => rfl
  refine (say_tells rfl).line (married.tells (Run.Does.store.tells ?_))
  refine .line (Shows.opens ?_).tells rule_tells
  -- plain text and placeholders in turn
  repeat' apply Shows.append
  · exact .plain rfl
  · exact .named rfl rfl rfl rfl rfl plain_does
  · exact .plain rfl
  · exact .named rfl rfl rfl rfl rfl plain_does
  · exact .plain rfl
  · exact .named rfl rfl rfl rfl rfl (scalar_does (by simp))
  · exact .plain rfl
  · exact .named rfl rfl rfl rfl rfl (scalar_does (by simp))
  · exact .plain rfl
  · exact .named rfl rfl rfl rfl rfl plain_does
  · exact .plain rfl
  · exact .positional 0 rfl rfl rfl rfl plain_does
  · exact .plain rfl

/-- The lines of the second section, those with numbers by what they begin with. -/
def referenceCaptions : List Text :=
  ["2. References into values:\n",
   "Last name in uppercase" ++ ": " ++ Text.toUpper x.last ++ ['\n'],
   "First letter of the last name" ++ ": " ++ x.last.take 1 ++ ['\n'],
   "Is your favorite letter uppercase? " ++
    (Scalar.bool (Text.isUpper [x.letter])).display ++ ['\n'],
   "Age in months: ", "Height in cm: ", ruleLine]

theorem printReferences_tells : (printReferences x.details).Tells s (referenceCaptions x) s := by
  have upper : Shows s ⟨[], x.details⟩ (slot "last_name.upper()") (Text.toUpper x.last) :=
    .slot rfl rfl (read_method (t := "last_name") "upper" [] (.of_read rfl) rfl
      (List.forall_mem_nil _)) rfl (.of_run fun _ _ _ => rfl) plain_does
  -- the first letter is there since the name is not empty
  have initial : Shows s ⟨[], x.details⟩ (slot "last_name[0]") (x.last.take 1) := by
    obtain ⟨c, rest, last⟩ := List.exists_cons_of_ne_nil x.last_visible
    refine .slot rfl rfl (read_items (t := "last_name") [.scalar (.int 0)]
      (.of_read rfl) (List.forall_mem_singleton.mpr (.int 0))) rfl
      (.of_run (v := .text [c]) fun _ _ _ => ?_) ?_
    · unfold Answers.details
      rw [last]
      rfl
    · rw [last]
      exact plain_does
  have capital : Shows s ⟨[], x.details⟩ (slot "letter.isupper()")
      (Scalar.bool (Text.isUpper [x.letter])).display :=
    .slot rfl rfl (read_method (t := "letter") "isupper" [] (.of_read rfl) rfl
      (List.forall_mem_nil _)) rfl (.of_run fun _ _ _ => rfl) (scalar_does (by simp))
  have age : (detail x.details "age").Does s [] (.int x.age) s := .of_run fun _ _ _ => rfl
  have months : (Run.ofAct .fault ((Value.int x.age).times 12)).Does s [] (.int (x.age * 12)) s :=
    .ofAct rfl
  have height : (detail x.details "height").Does s [] (.float x.height) s :=
    .of_run fun _ _ _ => rfl
  have centimeters : (Run.ofAct .fault ((Value.float x.height).times 100)).Does s []
      (.float (x.height.mul (Binary64.ofRatio false 100 1))) s := .ofAct rfl
  refine (say_tells rfl).line ?_
  refine (line_tells rfl rfl upper).line ?_
  refine (line_tells rfl rfl initial).line ?_
  refine (line_tells rfl rfl capital).line ?_
  refine age.tells (months.tells ?_)
  refine .line (captioned rfl rfl (.positional 0 rfl rfl rfl rfl plain_does)) ?_
  refine height.tells (centimeters.tells ?_)
  exact .line (captioned rfl rfl (.positional 0 rfl rfl rfl rfl (numeric_does rfl))) rule_tells

/-- What the lines of the third section begin with. -/
def numberCaptions : List Text :=
  ["3. Number formatting:\n", "PI without format: ", "PI with 2 decimals: ",
   "PI with 6 decimals: ", "Integer with padding: ", "Integer as hexadecimal: ",
   "Integer as binary: ", "Float with scientific notation: ", ruleLine]

theorem printNumbers_tells : (printNumbers x.details).Tells s numberCaptions s := by
  refine (say_tells rfl).line ?_
  refine .line (captioned rfl rfl (.named rfl rfl rfl rfl rfl (scalar_does (by simp)))) ?_
  refine .line (captioned rfl rfl (.named rfl rfl rfl rfl rfl (numeric_does rfl))) ?_
  refine .line (captioned rfl rfl (.named rfl rfl rfl rfl rfl (numeric_does rfl))) ?_
  refine .line (captioned rfl rfl (.named rfl rfl rfl rfl rfl (numeric_does rfl))) ?_
  refine .line (captioned rfl rfl (.named rfl rfl rfl rfl rfl (numeric_does rfl))) ?_
  refine .line (captioned rfl rfl (.named rfl rfl rfl rfl rfl (numeric_does rfl))) ?_
  exact .line (captioned rfl rfl (.named rfl rfl rfl rfl rfl (numeric_does rfl))) rule_tells

end Person

/-! ## The sections about containers -/

section Containers

variable {s : Store}

theorem make_does (l : Literal) : (make l).Does s [] (l.build s).1 (l.build s).2 := .ofAct rfl

theorem allocate_does (c : Cell) :
    (Run.ofAct .fault (Act.allocate c)).Does s [] (.ref s.length) (s ++ [c]) := .ofAct rfl

def sequenceCaptions : List Text :=
  ["4. Array-like containers:\n", "List:  ", "2D matrix (:a):\n", "3D matrix (:a):\n",
   "4D matrix (:a):\n", "Matrix element [1][0][1][0]: ", ruleLine]

def sequenceObjects : Store :=
  let vector := ((integers [1, 2, 3, 4, 5]).build []).2
  let queue := vector ++ [.deque [.int 0, .int 1, .int 2, .int 3] none]
  (matrix4.build (matrix3.build (matrix2.build queue).2).2).2

theorem printMatrix_tells (name : Text) (matrix : Value) :
    (printMatrix name matrix).Tells s [name ++ " matrix (:a):\n"] s := by
  have named : Shows s ⟨[.text name, matrix], []⟩ (slot "0") name :=
    .positional 0 rfl rfl rfl rfl plain_does
  apply Opens.tells
  iterate 6 apply Opens.append
  · exact (named.append (.plain rfl)).opens
  · exact ⟨_, .positional 1 rfl rfl rfl rfl array_does⟩
  · exact ⟨_, .plain rfl⟩
  · exact ⟨_, named⟩
  · exact ⟨_, .plain rfl⟩
  · exact ⟨_, .positional 1 rfl rfl rfl rfl compact_does⟩
  · exact ⟨_, .plain rfl⟩

theorem printSequences_tells : printSequences.Tells [] sequenceCaptions sequenceObjects := by
  let keys : List Literal := ([1, 0, 1, 0] : List Int).map fun i => .scalar (.int i)
  have path : Reference.read "m[1][0][1][0]" = .ok ⟨"m[1][0][1][0]", .name "m", keys.map .item⟩ :=
    read_items (t := "m") keys (.of_read rfl) (List.forall_mem_map.mpr fun i _ => .int i)
  refine (say_tells rfl).line ?_
  refine (make_does _).tells ((allocate_does _).tells ?_)
  refine (make_does _).tells ((make_does _).tells ((make_does _).tells ?_))
  refine .line ?_ ?_
  · apply Opens.tells
    iterate 4 apply Opens.append
    · exact Shows.opens (.plain rfl)
    · exact ⟨_, .positional 0 rfl rfl rfl rfl array_does⟩
    · exact ⟨_, .plain rfl⟩
    · exact ⟨_, .positional 1 rfl rfl rfl rfl array_does⟩
    · exact ⟨_, .plain rfl⟩
  refine (printMatrix_tells _ _).line ?_
  refine (printMatrix_tells _ _).line ?_
  refine (printMatrix_tells _ _).line ?_
  exact .line (captioned rfl rfl (.slot rfl rfl path rfl
    (.of_run (v := .int 11) fun _ _ _ => rfl) plain_does)) rule_tells

def mappingCaptions : List Text :=
  ["5. Map-like containers:\n", "Dict:\n", "Dict (:c): ", "Capital of France: ",
   "Is 'apple' in the set? ", "Nested (:a):\n", "Population of Paris: ", ruleLine]

theorem plain_words (ts : List Text) : ∀ k ∈ ts.map word, Plain k :=
  List.forall_mem_map.mpr fun t _ => .text t

theorem printMappings_tells : ∃ s, printMappings.Tells sequenceObjects mappingCaptions s := by
  have capital : Reference.read "0.get('France')" = .ok ⟨"0.get('France')", .index 0,
      [.attribute "get", .call (.tuple [word "France"])]⟩ :=
    read_method (t := natText 0) "get" _ (.index 0) rfl (plain_words ["France"])
  have membership : Reference.read "0.__contains__('apple')" = .ok ⟨"0.__contains__('apple')",
      .index 0, [.attribute "__contains__", .call (.tuple [word "apple"])]⟩ :=
    read_method (t := natText 0) "__contains__" _ (.index 0) rfl (plain_words ["apple"])
  have path : Reference.read "0['France']['Paris']['population']" =
      .ok ⟨"0['France']['Paris']['population']", .index 0,
        [.item (word "France"), .item (word "Paris"), .item (word "population")]⟩ :=
    read_items (t := natText 0) _ (.index 0) (plain_words ["France", "Paris", "population"])
  apply Exists.intro
  apply (say_tells rfl).line
  apply (make_does _).tells
  apply (allocate_does _).tells
  apply (make_does _).tells
  apply (make_does _).tells
  apply Run.Tells.line
  · apply Opens.tells
    iterate 6 apply Opens.append
    · exact Shows.opens (.plain rfl)
    · exact ⟨_, .positional 0 rfl rfl rfl rfl expanded_does⟩
    · exact ⟨_, .plain rfl⟩
    · exact ⟨_, .positional 1 rfl rfl rfl rfl expanded_does⟩
    · exact ⟨_, .plain rfl⟩
    · exact ⟨_, .positional 2 rfl rfl rfl rfl expanded_does⟩
    · exact ⟨_, .plain rfl⟩
  apply Run.Tells.line
  · apply Opens.tells
    iterate 4 apply Opens.append
    · exact Shows.opens (.plain rfl)
    · exact ⟨_, .positional 0 rfl rfl rfl rfl compact_does⟩
    · exact ⟨_, .plain rfl⟩
    · exact ⟨_, .positional 0 rfl rfl rfl rfl array_does⟩
    · exact ⟨_, .plain rfl⟩
  apply Run.Tells.line
  · exact captioned rfl rfl (.slot rfl rfl capital rfl
      (.of_run (v := .text "Paris") fun _ _ _ => rfl) plain_does)
  apply Run.Tells.line
  · exact captioned rfl rfl (.slot rfl rfl membership rfl
      (.of_run (v := .truth true) fun _ _ _ => rfl) plain_does)
  apply Run.Tells.line
  · exact captioned rfl rfl (.positional 0 rfl rfl rfl rfl array_does)
  apply Run.Tells.line
  · exact captioned rfl rfl (.slot rfl rfl path rfl
      (.of_run (v := .text "2.2M") fun _ _ _ => rfl) plain_does)
  exact rule_tells

end Containers

/-! ## The section about records -/

section Records

variable {s : Store} {b : Address} {t : Text} (name : Text) (age : Int)

def recordCaptions : List Text :=
  ["6. Records:\n", "Average age: ", "Names sorted by age: ", "Greeting: ", "People (:j):\n",
   "Ages (:c): ", ruleLine]

theorem peopleByAge_eq : peopleByAge =
    ([("Bob", 25), ("Diana", 28), ("Alice", 30), ("Charlie", 35)] : List (Text × Nat)) := by
  cbv

def greetingOf : Text :=
  "Hello, my name is " ++ name ++ " and I am " ++ intText age ++ " years old"

theorem greet_run : (Method.greet [.text name, .int age]).run s =
    (.ok (.text (greetingOf name age)), s) := by
  have shown : s.format (.int age) [] = .ok (intText age) := by
    change s.speak (.int age) = _
    rw [Store.speak, Store.display, displayFrom]
    all_goals simp
    rfl
  change (do
    let n ← Method.greet.liftExcept (s.format (.text name) [])
    let a ← Method.greet.liftExcept (s.format (.int age) [])
    pure (.text ("Hello, my name is " ++ n ++ " and I am " ++ a ++ " years old")) :
    Act Value).run s = _
  rw [shown]
  rfl

theorem run_get_bind {α : Type} {next : Store → Act α} :
    (get >>= next : Act α).run s = (next s).run s := rfl

/-- A person greets. -/
theorem greeting_does (found : s[b]? = some (.record personType [.text name, .int age])) :
    (walk t [.attribute "greet", .call (.tuple [])] (.ref b)).Does s []
      (.text (greetingOf name age)) s := by
  have taken : (Store.readAttribute (.ref b) "greet").run s =
      (.ok (.method (.ref b) "greet"), s) := by
    rw [Store.readAttribute, run_get_bind]
    simp only [found]
    rfl
  have called : (Method.callOn (.ref b) "greet" []).run s =
      (.ok (.text (greetingOf name age)), s) := by
    unfold Method.callOn
    dsimp only
    rw [run_get_bind]
    simp only [found]
    exact greet_run name age
  refine Run.Does.bind (x := []) (.bind .store (.ofAct taken)) ?_
  exact Run.Does.bind (x := []) (.bind .store (.ofAct called)) (.result _)

def recordOf (p : Text × Nat) : Cell := .record personType [.text p.1, .int p.2]

theorem people_does (ps : List (Text × Nat)) (s : Store) :
    (ps.mapM fun p => Run.ofAct .fault (person p.1 (.int p.2))).Does s []
      ((List.range' s.length ps.length).map .ref) (s ++ ps.map recordOf) := by
  induction ps generalizing s with
  | nil => simpa using Run.Does.result _
  | cons p ps ih =>
      have first : (Run.ofAct .fault (person p.1 (.int p.2))).Does s [] (.ref s.length)
          (s ++ [recordOf p]) := .ofAct rfl
      have rest := ih (s ++ [recordOf p])
      simp only [List.length_append, List.length_singleton, List.append_assoc] at rest
      rw [List.mapM_cons]
      exact first.bind (rest.bind (.result _))

theorem printRecords_tells (s : Store) : ∃ s', printRecords.Tells s recordCaptions s' := by
  have greeting : Reference.read "0.greet()" = .ok ⟨"0.greet()", .index 0,
      [.attribute "greet", .call (.tuple [])]⟩ :=
    read_method (t := natText 0) "greet" [] (.index 0) rfl (List.forall_mem_nil _)
  unfold printRecords
  rw [peopleByAge_eq]
  apply Exists.intro
  apply (say_tells rfl).line
  apply (people_does _ _).tells
  apply (allocate_does _).tells
  apply Run.Does.tells
  · exact .ofAct rfl
  apply Run.Tells.line
  · exact captioned rfl rfl (.positional 0 rfl rfl rfl rfl (numeric_does rfl))
  apply Run.Tells.line
  · exact captioned rfl rfl (.positional 0 rfl rfl rfl rfl plain_does)
  apply Run.Tells.line
  · refine captioned rfl rfl (.slot rfl rfl greeting rfl (greeting_does "Bob" 25 ?_) plain_does)
    -- the first record stands in front of the group and the counts
    simp [Store.put, recordOf]
  apply Run.Tells.line
  · exact captioned rfl rfl (.positional 0 rfl rfl rfl rfl expanded_does)
  apply Run.Tells.line
  · exact captioned rfl rfl (.positional 0 rfl rfl rfl rfl compact_does)
  exact rule_tells

end Records

end Stencil.Demo

import Stencil.Prompt
import Stencil.Render
import Stencil.Value.Product

/-! # The demonstration: persons

The personal details that the demonstration is about, asked for or taken from a
sample, and the sections that show them. Details are values like any others: the
sections look them up, and what is missing or does not fit fails where it is
used.
-/

namespace Stencil.Demo

/-- A placeholder for an expression. -/
def slot (expression : Text) : Text := '{' :: expression ++ ['}']

/-- The line between sections. -/
def rule : Text := List.replicate 48 '-'

/-- Prints a template with positional arguments. -/
def say (template : Text) (positional : List Value) : Run Unit := print template ⟨positional, []⟩

def printRule : Run Unit := say (slot "0" ++ ['\n']) [.text rule]

abbrev Details := List (Text × Value)

def askDetails : Run Details := do
  let first ← prompt "Your first name: " .text
  let last ← prompt "Your last name: " .text
  let age ← prompt "Your age: " .integer
  let height ← prompt "Your height (in meters): " .float
  let married ← prompt "Are you married? (true/false): " .truth
  let letter ← prompt "What is your favorite letter? " .character
  pure [("first_name", first), ("last_name", last), ("age", age), ("height", height),
    ("married", married), ("letter", letter)]

def sampleDetails : Details :=
  [("first_name", .text "Ada"), ("last_name", .text "Lovelace"), ("age", .int 36),
   ("height", .float (Binary64.ofDecimal false 165 (-2))), ("married", .truth true),
   ("letter", .text "a")]

/-- A detail that has to be there. -/
def detail (d : Details) (name : Text) : Run Value :=
  match d.lookup name with
  | some v => pure v
  | none => throw (.fault ⟨.missingKey, quoted name⟩)

def circleRatio : Value := .float (Binary64.ofDecimal false 3141592653589793 (-15))

def printSimple (d : Details) : Run Unit := do
  say "1. Simple values:\n" []
  let married ← detail d "married"
  let s ← Run.store
  let status : Text := if s.isTrue married then "you are" else "you are not"
  let greeting : Text :=
    "Hello, " ++ slot "first_name" ++ " " ++ slot "last_name" ++ ", you are " ++ slot "age" ++
      " years old, you are " ++ slot "height" ++ " m tall, your favorite letter is '" ++
      slot "letter" ++ "', and " ++ slot "0" ++ " married.\n"
  print greeting ⟨[.text status], d⟩
  printRule

def printReferences (d : Details) : Run Unit := do
  let line (text expression : Text) : Run Unit :=
    print (text ++ ": " ++ slot expression ++ ['\n']) ⟨[], d⟩
  say "2. References into values:\n" []
  line "Last name in uppercase" "last_name.upper()"
  line "First letter of the last name" "last_name[0]"
  print ("Is your favorite letter uppercase? " ++ slot "letter.isupper()" ++ ['\n']) ⟨[], d⟩
  let age ← detail d "age"
  let months ← Run.ofAct .fault (age.times 12)
  say ("Age in months: " ++ slot "0" ++ ['\n']) [months]
  let height ← detail d "height"
  let centimeters ← Run.ofAct .fault (height.times 100)
  say ("Height in cm: " ++ slot "0:.0" ++ ['\n']) [centimeters]
  printRule

def printNumbers (d : Details) : Run Unit := do
  let number (text expression : Text) : Run Unit :=
    print (text ++ ": " ++ slot expression ++ ['\n']) ⟨[], [("pi", circleRatio)]⟩
  let integer (text expression : Text) : Run Unit :=
    print (text ++ ": " ++ slot expression ++ ['\n']) ⟨[], d⟩
  say "3. Number formatting:\n" []
  number "PI without format" "pi"
  number "PI with 2 decimals" "pi:.2"
  number "PI with 6 decimals" "pi:.6"
  integer "Integer with padding" "age:04"
  integer "Integer as hexadecimal" "age:x"
  integer "Integer as binary" "age:b"
  number "Float with scientific notation" "pi:e"
  printRule

def printValues (d : Details) : Run Unit := do
  printSimple d
  printReferences d
  printNumbers d

end Stencil.Demo

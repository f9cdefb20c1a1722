import Stencil.Demo.Person
import Stencil.Method.Mapping

/-! # The demonstration: containers

The sections that show arrays, mappings and records.
-/

namespace Stencil.Demo

def integers (xs : List Int) : Literal := .list (xs.map fun i => .scalar (.int i))

/-- A text as a literal. -/
def word (t : Text) : Literal := .scalar (.text t)

def make (l : Literal) : Run Value := Run.ofAct .fault (Step.build l)

def matrix2 : Literal := .list [integers [1, 2, 3], integers [4, 5, 6], integers [7, 8, 9]]

def matrix3 : Literal :=
  .list [.list [integers [1, 2], integers [3, 4]], .list [integers [5, 6], integers [7, 8]]]

def matrix4 : Literal :=
  .list
    [.list
      [.list [integers [1, 2], integers [3, 4]], .list [integers [5, 6], integers [7, 8]]],
     .list
      [.list [integers [9, 10], integers [11, 12]],
       .list [integers [13, 14], integers [15, 16]]]]

/-- Prints a matrix laid out and on one line. -/
def printMatrix (name : Text) (matrix : Value) : Run Unit :=
  say (slot "0" ++ " matrix (:a):\n" ++ slot "1:a" ++ "\n" ++ slot "0" ++ " matrix (:c): " ++
    slot "1:c" ++ "\n") [.text name, matrix]

def printSequences : Run Unit := do
  say "4. Array-like containers:\n" []
  let vector ← make (integers [1, 2, 3, 4, 5])
  let queue ← Run.ofAct .fault (Act.allocate (.deque [.int 0, .int 1, .int 2, .int 3] none))
  let m2 ← make matrix2
  let m3 ← make matrix3
  let m4 ← make matrix4
  say ("List:  " ++ slot "0:a" ++ "\nDeque: " ++ slot "1:a" ++ "\n") [vector, queue]
  printMatrix "2D" m2
  printMatrix "3D" m3
  printMatrix "4D" m4
  print ("Matrix element [1][0][1][0]: " ++ slot "m[1][0][1][0]" ++ "\n") ⟨[], [("m", m4)]⟩
  printRule

/-- A dictionary with texts for keys. -/
def dictOf (es : List (Text × Literal)) : Literal := .dict (es.map fun e => (word e.1, e.2))

/-- What there is to know about a city. -/
def cityOf (name population attractions : Text) : Literal :=
  dictOf [(name, dictOf [("population", word population), ("attractions", word attractions)])]

def printMappings : Run Unit := do
  say "5. Map-like containers:\n" []
  let capitals ← make
    (dictOf [("France", word "Paris"), ("Germany", word "Berlin"), ("Italy", word "Rome")])
  let ordered ← Run.ofAct .fault (Act.allocate
    (.map .ordered [(.text "A", .int 1), (.text "B", .int 2), (.text "C", .int 3)]))
  let fruits ← make (.set [word "apple", word "banana", word "orange"])
  let cities ← make (dictOf
    [("France", cityOf "Paris" "2.2M" "Eiffel Tower, Louvre"),
     ("USA", cityOf "New York" "8.4M" "Statue of Liberty, Times Square")])
  say ("Dict:\n" ++ slot "0:j" ++ "\nOrderedDict:\n" ++ slot "1:j" ++ "\nSet:\n" ++ slot "2:j" ++
    "\n") [capitals, ordered, fruits]
  say ("Dict (:c): " ++ slot "0:c" ++ "\nDict (:a): " ++ slot "0:a" ++ "\n") [capitals]
  say ("Capital of France: " ++ slot "0.get('France')" ++ "\n") [capitals]
  say ("Is 'apple' in the set? " ++ slot "0.__contains__('apple')" ++ "\n") [fruits]
  say ("Nested (:a):\n" ++ slot "0:a" ++ "\n") [cities]
  say ("Population of Paris: " ++ slot "0['France']['Paris']['population']" ++ "\n") [cities]
  printRule

def personType : RecordType :=
  ⟨"Person", "cio.demo", [("name", true), ("age", true)], ["greet"]⟩

def person (name : Text) (age : Value) : Act Value :=
  Act.allocate (.record personType [.text name, age])

/-- The names and ages of some people. -/
def people : List (Text × Nat) := [("Alice", 30), ("Bob", 25), ("Charlie", 35), ("Diana", 28)]

/-- The people from the youngest on. -/
def peopleByAge : List (Text × Nat) := people.mergeSort fun p q => p.2 ≤ q.2

def printRecords : Run Unit := do
  say "6. Records:\n" []
  let total := people.foldl (fun sum p => sum + p.2) 0
  let average := Value.float (Binary64.ofRatio false total people.length)
  let records ← peopleByAge.mapM fun p => Run.ofAct .fault (person p.1 (.int p.2))
  let names := Text.joinWith ", " (peopleByAge.map (·.1))
  let group ← Run.ofAct .fault (Act.allocate (.list records))
  let decades := peopleByAge.map fun p => (Value.int (p.2 / 10 * 10 : Nat), Value.int 1)
  let ages ← Run.ofAct .fault do
    let s ← get
    let (a, s) := s.allocate (.map .counting [])
    set s
    Method.addCounts a [] decades
    pure (.ref a)
  say ("Average age: " ++ slot "0:.1" ++ "\n") [average]
  say ("Names sorted by age: " ++ slot "0" ++ "\n") [.text names]
  say ("Greeting: " ++ slot "0.greet()" ++ "\n") (records.take 1)
  say ("People (:j):\n" ++ slot "0:j" ++ "\n") [group]
  say ("Ages (:c): " ++ slot "0:c" ++ "\n") [ages]
  printRule

/-- The whole demonstration, with the details of a sample person unless they are asked for. -/
def runDemo (interactive : Bool) : Run Unit := do
  say "=== Demonstration of printf with built-in containers ===\n" []
  let d ← if interactive then askDetails else pure sampleDetails
  printValues d
  printSequences
  printMappings
  printRecords
  say "=== End of the demonstration ===\n" []

end Stencil.Demo

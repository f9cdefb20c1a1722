import Stencil.Literal.Expression
import Stencil.Literal.Token

/-! # Parsing expressions

A parser by recursive descent for all expressions, also for those that are no
literals: whether a text is one at all comes before what it is. Operators of all
ranks are taken in one run, since a literal has at most one, a plus or minus, and
which operands belong together does not matter for anything else. What stands
behind a first token is parsed one step deeper, so that steps are counted by the
tokens; a run takes a token in each round.
-/

namespace Stencil.Literal

/-- A parser takes tokens from the front, or fails. -/
abbrev Parse := StateT (List Token) Option

/-- The ranks of expressions that other expressions ask for. -/
inductive Rank where
  | expression
  /-- Without a condition and no function. -/
  | disjunction
  /-- Without comparisons and what connects them. -/
  | arithmetic
  /-- Without operators in front or between. -/
  | primary
  deriving DecidableEq, Repr

def keywords : List Text := List.map String.toList
  ["False", "None", "True", "and", "as", "assert", "async", "await", "break", "class", "continue",
    "def", "del", "elif", "else", "except", "finally", "for", "from", "global", "if", "import",
    "in", "is", "lambda", "nonlocal", "not", "or", "pass", "raise", "return", "try", "while",
    "with", "yield"]

/-- Operators between operands, plus and minus apart. -/
def arithmeticOperators : List Text :=
  ["**", "*", "/", "//", "%", "@", "<<", ">>", "&", "|", "^"]

def relationOperators : List Text := ["==", "!=", "<", ">", "<=", ">="]

namespace Parse

/-! ## Tokens -/

def fail {α : Type} : Parse α := fun _ => none

def accept (token : Token) : Parse Bool
  | [] => some (false, [])
  | t :: ts => if t = token then some (true, ts) else some (false, t :: ts)

def acceptName (t : Text) : Parse Bool := accept (.name t)

def acceptMark (c : Char) : Parse Bool := accept (.mark c)

def acceptOperator (t : Text) : Parse Bool := accept (.operator t)

def expect (token : Token) : Parse Unit := do
  if ← accept token then pure () else fail

def atEnd : Parse Bool := fun ts => some (ts.isEmpty, ts)

/-- Whether one of some marks comes next, which is not taken. -/
def before (marks : List Char) : Parse Bool := fun ts =>
  some (marks.any fun c => ts.head? == some (.mark c), ts)

def identifier : Parse Text
  | .name t :: ts => if keywords.contains t then none else some (t, ts)
  | _ => none

/-- Takes an identifier and the operator behind it if both come next. -/
def assigns (operator : Text) : Parse Bool
  | .name t :: .operator o :: ts =>
      if !keywords.contains t && o == operator then some (true, ts)
      else some (false, .name t :: .operator o :: ts)
  | ts => some (false, ts)

/-- An operator between operands: a sign, whether it is a minus, or none if it is another one. -/
def operation : Parse (Option (Option Bool))
  | .mark c :: ts =>
      if c = '+' then some (some (some false), ts)
      else if c = '-' then some (some (some true), ts)
      else some (none, .mark c :: ts)
  | .operator t :: ts =>
      if arithmeticOperators.contains t then some (some none, ts) else some (none, .operator t :: ts)
  | ts => some (none, ts)

/-- A comparison, which may be of two names. -/
def relation : Parse Bool := do
  if ← acceptName "is" then
    let _ ← acceptName "not"
    pure true
  else if ← acceptName "in" then pure true
  else fun
    | .operator t :: ts =>
        if relationOperators.contains t then some (true, ts) else some (false, .operator t :: ts)
    | .name t :: .name u :: ts =>
        if t = "not" ∧ u = "in" then some (true, ts) else some (false, .name t :: .name u :: ts)
    | ts => some (false, ts)

/-- Quoted texts that stand side by side are one, except that bytes are joined to bytes only. -/
def joinQuoted (e : Expression) : Parse Expression
  | .text t :: ts =>
      match e with
      | .constant (.text u) => joinQuoted (.constant (.text (u ++ t))) ts
      | .other => joinQuoted .other ts
      | _ => none
  | .bytes bs :: ts =>
      match e with
      | .constant (.bytes cs) => joinQuoted (.constant (.bytes (cs ++ bs))) ts
      | _ => none
  | .format :: ts =>
      match e with
      | .constant (.bytes _) => none
      | _ => joinQuoted .other ts
  | ts => some (e, ts)

/-! ## Sequences -/

/-- Elements up to a closing token, with commas between them and perhaps behind the last one. -/
def elements {α : Type} (one : Parse α) (close : Parse Bool) : Nat → Parse (List α)
  | 0 => fail
  | n + 1 => do
      if ← close then pure []
      else
        let x ← one
        if ← close then pure [x]
        else
          expect (.mark ',')
          let xs ← elements one close n
          pure (x :: xs)

/-- What stands behind an element up to a closing token: nothing, or a comma and more elements. -/
def more {α : Type} (one : Parse α) (close : Parse Bool) (n : Nat) : Parse (List α) := do
  if ← close then pure []
  else
    expect (.mark ',')
    elements one close n

/-! ## Parts of expressions -/

section

-- The expressions inside of what is parsed, and how many rounds a run may take.
variable (inner : Rank → Parse Expression) (n : Nat)

def skip (rank : Rank) : Parse Unit := do
  let _ ← inner rank
  pure ()

/-- An expression, or a name that is given the value of one. -/
def named : Parse Expression := do
  if ← assigns ":=" then
    skip inner .expression
    pure .assigned
  else inner .expression

/-- An element of a bracket, which may be starred. -/
def element : Parse Expression := do
  if ← acceptOperator "*" then
    let e ← inner .arithmetic
    pure (.starred e)
  else named inner

def entry : Parse (Expression × Expression) := do
  if ← acceptOperator "**" then
    skip inner .arithmetic
    pure (.other, .other)
  else
    let k ← inner .expression
    expect (.mark ':')
    let v ← inner .expression
    pure (k, v)

/-- The targets of a comprehension and the keyword behind them. -/
def targets : Nat → Parse Unit
  | 0 => fail
  | n + 1 => do
      let _ ← acceptOperator "*"
      let e ← inner .primary
      if e.assignable then
        if ← acceptMark ',' then
          if ← acceptName "in" then pure () else targets n
        else expect (.name "in")
      else fail

def conditions : Nat → Parse Unit
  | 0 => fail
  | n + 1 => do
      if ← acceptName "if" then
        skip inner .disjunction
        conditions n
      else pure ()

def clauses : Nat → Parse Bool
  | 0 => fail
  | n + 1 => do
      let waits ← acceptName "async"
      if ← acceptName "for" then
        targets inner n
        skip inner .disjunction
        conditions inner n
        let _ ← clauses n
        pure true
      else if waits then fail
      else pure false

/-- What parentheses around a single element come to. -/
def enclosed : Expression → Parse Expression
  | .starred _ => fail
  | .assigned => pure .other
  | e => pure e

/-- One of the values that are handed out. -/
def yieldedItem : Parse Unit := do
  if ← acceptOperator "*" then skip inner .arithmetic else skip inner .expression

/-- What is behind the keyword that hands out values, up to the end of its parentheses. -/
def yielded : Parse Expression := do
  if ← acceptName "from" then
    skip inner .expression
    expect (.mark ')')
    pure .other
  else if ← acceptMark ')' then pure .other
  else
    yieldedItem inner
    let _ ← more (yieldedItem inner) (acceptMark ')') n
    pure .other

/-- What is behind an opening parenthesis: a tuple, a single element, or a comprehension. -/
def group : Parse Expression := do
  if ← acceptMark ')' then pure (.tuple [])
  else if ← acceptName "yield" then yielded inner n
  else
    let e ← element inner
    if ← clauses inner n then
      let _ ← enclosed e
      expect (.mark ')')
      pure .other
    else if ← acceptMark ')' then enclosed e
    else
      let es ← more (element inner) (acceptMark ')') n
      pure (.tuple (e :: es))

/-- What is behind an opening square bracket. -/
def items : Parse Expression := do
  if ← acceptMark ']' then pure (.list [])
  else
    let e ← element inner
    if ← clauses inner n then
      let _ ← enclosed e
      expect (.mark ']')
      pure .other
    else
      let es ← more (element inner) (acceptMark ']') n
      pure (.list (e :: es))

/-- What is behind the key of a first entry. -/
def entries (k : Expression) : Parse Expression := do
  let v ← inner .expression
  if ← clauses inner n then
    expect (.mark '\x7d')
    pure .other
  else
    let es ← more (entry inner) (acceptMark '\x7d') n
    pure (.dict ((k, v) :: es))

/-- What is behind an opening brace: a dictionary, a set, or a comprehension. -/
def braces : Parse Expression := do
  if ← acceptMark '\x7d' then pure (.dict [])
  else if ← acceptOperator "**" then
    skip inner .arithmetic
    let es ← more (entry inner) (acceptMark '\x7d') n
    pure (.dict ((.other, .other) :: es))
  else
    let e ← element inner
    if ← acceptMark ':' then
      match e with
      | .starred _ | .assigned => fail
      | k => entries inner n k
    else if ← clauses inner n then
      let _ ← enclosed e
      expect (.mark '\x7d')
      pure .other
    else
      let es ← more (element inner) (acceptMark '\x7d') n
      pure (.set (e :: es))

inductive Argument where
  | positional | unpacked | keyword | mapping
  deriving DecidableEq, Repr

def Argument.precedes : Argument → Argument → Bool
  | keyword, positional | mapping, positional | mapping, unpacked => false
  | _, _ => true

def argument : Parse Argument := do
  if ← acceptOperator "**" then
    skip inner .expression
    pure .mapping
  else if ← acceptOperator "*" then
    skip inner .expression
    pure .unpacked
  else if ← assigns "=" then
    skip inner .expression
    pure .keyword
  else
    let _ ← named inner
    pure .positional

/-- The clauses that make a comprehension of an argument, if there are any. -/
def argumentClauses (a : Argument) : Parse Bool :=
  if a = .positional then clauses inner n else pure false

def arguments : Parse Unit := do
  let a ← argument inner
  if ← argumentClauses inner n a then expect (.mark ')')
  else
    let as ← more (argument inner) (acceptMark ')') n
    if (a :: as).Pairwise (Argument.precedes · ·) then pure () else fail

/-- A call. Without arguments, that of one name is a literal. -/
def call (callee : Expression) : Parse Expression := do
  if ← acceptMark ')' then
    match callee with
    | .name t => pure (if t = "set" then .emptySet else .other)
    | _ => pure .other
  else
    arguments inner n
    pure .other

/-- The part of a slice behind a colon. -/
def bound : Parse Unit := do
  if ← before [':', ',', ']'] then pure () else skip inner .expression

/-- The parts of a slice behind its first colon. -/
def bounds : Parse Unit := do
  bound inner
  if ← acceptMark ':' then bound inner else pure ()

def index : Parse Unit := do
  if ← acceptOperator "*" then skip inner .expression
  else if ← acceptMark ':' then bounds inner
  else
    let e ← named inner
    if ← acceptMark ':' then
      match e with
      | .assigned => fail
      | _ => bounds inner
    else pure ()

/-- Attributes, calls and indices behind a part of an expression. -/
def trailers (e : Expression) : Nat → Parse Expression
  | 0 => fail
  | m + 1 => do
      if ← acceptOperator "." then
        let _ ← identifier
        trailers .access m
      else if ← acceptMark '(' then
        let f ← call inner n e
        trailers f m
      else if ← acceptMark '[' then
        index inner
        let _ ← more (index inner) (acceptMark ']') n
        trailers .access m
      else pure e

/-- A name: a constant, an identifier, or a keyword that is no expression. -/
def nameValue (t : Text) : Parse Expression :=
  if t = "None" then pure (.constant .none)
  else if t = "True" then pure (.constant (.bool true))
  else if t = "False" then pure (.constant (.bool false))
  else if keywords.contains t then fail
  else pure (.name t)

/-- A part of an expression that is not put together by operators. -/
def atom : Parse Expression
  | [] => none
  | token :: ts =>
      match token with
      | .number s => some (.constant s, ts)
      | .text t => joinQuoted (.constant (.text t)) ts
      | .bytes bs => joinQuoted (.constant (.bytes bs)) ts
      | .format => joinQuoted .other ts
      | .dots => some (.constant .ellipsis, ts)
      | .name t => nameValue t ts
      | .mark c =>
          if c = '(' then group inner n ts
          else if c = '[' then items inner n ts
          else if c = '\x7b' then braces inner n ts
          else none
      | .operator _ => none

def primary : Parse Expression := do
  let e ← atom inner n
  trailers inner n e n

/-- An operand with what stands in front of it. -/
def operand : Nat → Parse Expression
  | 0 => fail
  | m + 1 => do
      if ← acceptMark '+' then
        let e ← operand m
        pure (.signed false e)
      else if ← acceptMark '-' then
        let e ← operand m
        pure (.signed true e)
      else if ← acceptOperator "~" then
        let _ ← operand m
        pure .other
      else if ← acceptName "await" then
        let _ ← primary inner n
        pure .other
      else primary inner n

/-- The operators and operands behind an expression. -/
def operations (e : Expression) : Nat → Parse Expression
  | 0 => fail
  | m + 1 => do
      match ← operation with
      | none => pure e
      | some sign =>
          let f ← operand inner n n
          match sign with
          | some negative => operations (.sum e negative f) m
          | none => operations .other m

def arithmetic : Parse Expression := do
  let e ← operand inner n n
  operations inner n e n

/-- Negations in front of an expression; whether there are any. -/
def negations : Nat → Parse Bool
  | 0 => fail
  | m + 1 => do
      if ← acceptName "not" then
        let _ ← negations m
        pure true
      else pure false

def junction : Parse Bool := do
  if ← acceptName "and" then pure true else acceptName "or"

/-- What an expression is compared or connected with; whether there is anything. -/
def connected : Nat → Parse Bool
  | 0 => fail
  | m + 1 => do
      if ← junction then
        let _ ← negations n
        let _ ← arithmetic inner n
        let _ ← connected m
        pure true
      else if ← relation then
        let _ ← arithmetic inner n
        let _ ← connected m
        pure true
      else pure false

def disjunction : Parse Expression := do
  let negated ← negations n
  let e ← arithmetic inner n
  let more ← connected inner n n
  pure (if negated || more then .other else e)

/-- The kinds of parameters of a function, and the marks among them. -/
inductive Parameter where
  | plain | standard | slash | bare | rest | mapping
  deriving DecidableEq, Repr

/-- Whether parameters may follow a bare star or the one that takes the rest. -/
def Parameter.named : List Parameter → Bool
  | [] => true
  | plain :: ps | standard :: ps => named ps
  | mapping :: ps => ps.isEmpty
  | _ => false

/-- Whether parameters are in order: `some` when there are some before, `standard` when one of them
    has a standard value, and `closed` when those without a name of their own are closed. -/
def Parameter.ordered (before hasStandard closed : Bool) : List Parameter → Bool
  | [] => true
  | plain :: ps => !hasStandard && ordered true false closed ps
  | standard :: ps => ordered true true closed ps
  | slash :: ps => before && !closed && ordered true hasStandard true ps
  | rest :: ps => named ps
  | bare :: ps => (ps.head? == some plain || ps.head? == some standard) && named ps
  | mapping :: ps => ps.isEmpty

def parameter : Parse Parameter := do
  if ← acceptOperator "**" then
    let _ ← identifier
    pure .mapping
  else if ← acceptOperator "*" then
    if ← before [',', ':'] then pure .bare
    else
      let _ ← identifier
      pure .rest
  else if ← acceptOperator "/" then pure .slash
  else if ← assigns "=" then
    skip inner .expression
    pure .standard
  else
    let _ ← identifier
    pure .plain

/-- The parameters of a function and the colon behind them. -/
def parameters : Parse Unit := do
  if ← acceptMark ':' then pure ()
  else
    let p ← parameter inner
    let ps ← more (parameter inner) (acceptMark ':') n
    if Parameter.ordered false false false (p :: ps) then pure () else fail

/-- An expression, its parts being parsed by `inner`. -/
def expression : Parse Expression := do
  if ← acceptName "lambda" then
    parameters inner n
    skip inner .expression
    pure .other
  else
    let e ← disjunction inner n
    if ← acceptName "if" then
      skip inner .disjunction
      expect (.name "else")
      skip inner .expression
      pure .other
    else pure e

def step : Rank → Parse Expression
  | .expression => expression inner n
  | .disjunction => disjunction inner n
  | .arithmetic => arithmetic inner n
  | .primary => primary inner n

end

/-- Parses an expression of a rank, `n` steps deep. -/
def descend : Nat → Rank → Parse Expression
  | 0 => fun _ => fail
  | n + 1 => step (descend n) (n + 1)

/-- Parses all of a text: an expression, or several as a tuple. -/
def whole (n : Nat) : Parse Expression := do
  let e ← descend n .expression
  if ← atEnd then pure e
  else
    let es ← more (descend n .expression) atEnd n
    pure (.tuple (e :: es))

end Parse

end Stencil.Literal

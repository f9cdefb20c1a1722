import Stencil.Demo.Containers

/-! # The demonstration's command line

Two options, each with a long and a short name. Long names may be cut short as
long as they name one option; short ones may be run together. Words that are no
option are reported all together at the end.
-/

namespace Stencil.Demo

inductive CommandOption where
  | help | interactive
  deriving DecidableEq, Repr

/-- What a command line asks for. -/
inductive Command where
  | run (interactive : Bool)
  | help
  | misuse (message : Text)
  deriving Repr

/-- The names of the options, in the order they are looked through. -/
def optionNames : List (Text × CommandOption) :=
  [("-h", .help), ("--help", .help), ("--interactive", .interactive), ("-i", .interactive)]

/-- The names an option is spoken of by. -/
def CommandOption.names : CommandOption → Text
  | help => "-h/--help"
  | interactive => "--interactive/-i"

/-- What a word of the command line is. -/
inductive Argument where
  /-- An option, whether by its short name, and what was attached to it. -/
  | option (o : CommandOption) (short : Bool) (attached : Option Text)
  | stray
  | ambiguous (names : List Text)
  deriving Repr

def cutEquals (word : Text) : Text × Option Text :=
  match Text.cut? "=" word with
  | some (name, attached) => (name, some attached)
  | none => (word, none)

def classify (word : Text) : Argument :=
  let isShort (name : Text) : Bool := name.length == 2
  let (name, attached) := cutEquals word
  match optionNames.lookup word with
  | some o => .option o (isShort word) none
  | none =>
      if !Text.startsWith word "-" || word.length == 1 then .stray
      else match attached, optionNames.lookup name with
        | some a, some o => .option o (isShort name) (some a)
        | _, _ =>
            if Text.startsWith word "--" then
              match optionNames.filter fun n => Text.startsWith n.1 name with
              | [] => .stray
              | [n] => .option n.2 false attached
              | ns => .ambiguous (ns.map (·.1))
            else match optionNames.lookup (word.take 2) with
              | some o => .option o true (some (word.drop 2))
              | none => .stray

/-- The message about a text attached to an option that takes none. -/
def ignoredMessage (o : CommandOption) (attached : Text) : Text :=
  "argument " ++ o.names ++ ": ignored explicit argument " ++ quoted attached

/-- The options run together in one word: those behind the first are single letters. -/
def unfoldOption (short : Bool) (o : CommandOption) : Option Text → Except Text (List CommandOption)
  | none => .ok [o]
  | some [] => .error (ignoredMessage o [])
  | some (c :: rest) =>
      if !short then .error (ignoredMessage o (c :: rest))
      else match optionNames.lookup ['-', c] with
        | some p =>
            match rest with
            | [] => .ok [o, p]
            | d :: more => (unfoldOption short p (some (d :: more))).map (o :: ·)
        | none => .error (ignoredMessage o (c :: rest))

/-- Goes through classified words. The first request for help ends it; words that are no option
    are kept for the end. -/
def readWords (interactive : Bool) (strays : List Text) : List (Text × Argument) → Command
  | [] =>
      if strays.isEmpty then .run interactive
      else .misuse ("unrecognized arguments: " ++ Text.joinWith " " strays)
  | (word, a) :: rest =>
      match a with
      | .option o short attached =>
          match unfoldOption short o attached with
          | .error message => .misuse message
          | .ok os =>
              if os.contains .help then .help else readWords true strays rest
      | _ => readWords interactive (strays ++ [word]) rest

/-- Words with what they are; behind a double dash nothing is an option. -/
def classifyAll : List Text → List (Text × Argument)
  | [] => []
  | word :: rest =>
      if word = ("--" : Text) then (word :: rest).map fun w => (w, .stray)
      else (word, classify word) :: classifyAll rest

/-- The command that the words of a command line make. -/
def Command.read (words : List Text) : Command :=
  let classified := classifyAll words
  let ambiguous? := classified.findSome? fun c =>
    match c.2 with
    | .ambiguous names => some (c.1, names)
    | _ => none
  match ambiguous? with
  | some (word, names) =>
      .misuse ("ambiguous option: " ++ word ++ " could match " ++ Text.joinWith ", " names)
  | none => readWords false [] classified

def programName : Text := "python -m cio.demo"

def usageText : Text := "usage: " ++ programName ++ " [-h] [--interactive]\n"

def helpText : Text :=
  usageText ++
    "\nDemonstrate printf formatting directives\n\noptions:\n" ++
    "  -h, --help         show this help message and exit\n" ++
    "  --interactive, -i  Ask for personal details on stdin\n"

/-- The complaint about a misuse. -/
def misuseText (message : Text) : Text :=
  usageText ++ programName ++ ": error: " ++ message ++ "\n"

/-- Carries out a command. The result is the exit code and what goes to the error stream. -/
def Command.perform : Command → Run (Nat × Text)
  | .run interactive => do
      runDemo interactive
      pure (0, [])
  | .help => do
      Run.write helpText
      pure (0, [])
  | .misuse message => pure (2, misuseText message)

end Stencil.Demo

import Stencil.Value.Display

/-! # Values over several lines

A container with entries is written one entry a line, each with its label and a
comma, between its delimiters; anything else as it is shown on one line. A
container that lies around itself is written as its delimiters around three
dots. Nothing here fails: what cannot be shown says so in its place.
-/

namespace Stencil

/-- An expandable container: its delimiters and its labelled entries. -/
structure Shape where
  opening : Text
  closing : Text
  entries : List (Text × Value)
  /-- The text of the container without entries. -/
  empty : Text

namespace Shape

/-- Entries without labels. -/
def ofItems (opening closing : Text) (items : List Value) : Shape :=
  ⟨opening, closing, items.map fun v => ([], v), opening ++ closing⟩

/-- Fields behind a name. -/
def ofFields (name : Text) (fields : List (Text × Value)) : Shape :=
  ⟨name ++ "(", ")", fields.map fun f => (f.1 ++ "=", f.2), name ++ "(" ++ ")"⟩

/-- Keys and values. -/
def ofEntries (s : Store) (es : List (Value × Value)) : Shape :=
  ⟨"\x7b", "\x7d", es.map fun e => (s.safeDisplay e.1 ++ ": ", e.2), "\x7b\x7d"⟩

/-- The items of a set, which is empty as a call of its type. -/
def ofSet (name : Text) (items : List Value) : Shape :=
  ⟨"\x7b", "\x7d", items.map fun v => ([], v), name ++ "()"⟩

end Shape

/-- The items of a list or of what is shown like one. -/
def Cell.listItems? (s : Store) : Cell → Option (List Value)
  | .list xs => some xs
  | .deque xs _ => some xs
  | .array _ xs => some (xs.map .scalar)
  | .wrappedList a =>
      match s[a]? with
      | some (.list xs) => some xs
      | _ => some []
  | _ => none

/-- The shape of a container, none for what is shown on one line. -/
def Cell.shape? (s : Store) (c : Cell) : Option Shape :=
  match c with
  | .record t values =>
      let shown := (t.fields.zip values).filter (·.1.2)
      some (.ofFields t.name (shown.map fun f => (f.1.1, f.2)))
  | .namedTuple name fields => some (.ofFields name fields)
  | .map .. | .wrappedMap _ | .proxy _ => some (.ofEntries s ((c.entries? s).getD []))
  | .list _ | .deque .. | .array .. | .wrappedList _ =>
      some (.ofItems "[" "]" ((c.listItems? s).getD []))
  | .tuple xs => some (.ofItems "(" ")" xs)
  | .set frozen xs => some (.ofSet (if frozen then "frozenset" else "set") xs)
  | _ => none

/-- The padding of a level; a negative width pads nothing. -/
def padding (indent : Int) (level : Nat) : Text := List.replicate (indent * level).toNat ' '

/-- A value over several lines at a level, `seen` being the containers around it. -/
def expandFrom (s : Store) (indent : Int) (level : Nat) (seen : List Address) (v : Value) : Text :=
  match v with
  | .ref a =>
      match _h : s[a]? with
      | none => s.safeDisplay v
      | some c =>
          match c.shape? s with
          | none => s.safeDisplay v
          | some shape =>
              if _ha : a ∈ seen then shape.opening ++ "..." ++ shape.closing
              else if shape.entries.isEmpty then shape.empty
              else
                let lines := shape.entries.map fun e =>
                  padding indent (level + 1) ++ e.1 ++
                    expandFrom s indent (level + 1) (a :: seen) e.2 ++ ","
                Text.joinWith "\n"
                  (shape.opening :: lines ++ [padding indent level ++ shape.closing])
  | v => s.safeDisplay v
termination_by s.unseen seen
decreasing_by exact Store.unseen_cons_lt _ha _h

namespace Store

def expand (s : Store) (indent : Int) (v : Value) : Text := expandFrom s indent 0 [] v

end Store

end Stencil

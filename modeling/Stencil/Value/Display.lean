import Stencil.Value.Compare
import Stencil.Value.TypeName

/-! # Values on one line

The text a value is shown by: a literal where there is one, otherwise the name
of its type around its content. A container inside of itself is shown by a short
mark. Showing can fail, where an object's own text does.
-/

namespace Stencil

def Speech.say : Speech → Except Fault Text
  | plain t => .ok t
  | fail f => .error f

def TypeValue.display : TypeValue → Text
  | named _ qualified => "<class '" ++ qualified ++ "'>"
  | record t => "<class '" ++ t.module ++ "." ++ t.name ++ "'>"

def commaList (parts : List Text) : Text := Text.joinWith ", " parts

namespace Cell

/-- Whether showing the content inside of itself is noticed here. The other containers show the
    cell they are around, or nothing that could lead back. -/
def isGuarded : Cell → Bool
  | list _ | tuple _ | set .. | deque .. | bag _ | record .. => true
  | map style _ => style != .counting
  | _ => false

/-- What stands for a container inside of itself. -/
def mark : Cell → Text
  | list _ | deque .. => "[...]"
  | tuple _ => "(...)"
  | set false _ => "set(...)"
  | set true _ => "frozenset(...)"
  | map .plain _ | map .counting _ => "\x7b...\x7d"
  | map .defaulting _ => "defaultdict(<class 'int'>, \x7b...\x7d)"
  | bag _ => "namespace(...)"
  | _ => "..."

def displayEntries (tell : Value → Except Fault Text) (es : List (Value × Value)) :
    Except Fault Text := do
  let parts ← es.mapM fun e => do
    let k ← tell e.1
    let v ← tell e.2
    pure (k ++ ": " ++ v)
  pure ('{' :: commaList parts ++ ['}'])

def pairText (tell : Value → Except Fault Text) (e : Value × Value) : Except Fault Text := do
  let k ← tell e.1
  let v ← tell e.2
  let pair : Text := '(' :: k ++ ", " ++ v ++ ")"
  pure pair

/-- Fields between parentheses behind a name. -/
def displayFields (tell : Value → Except Fault Text) (name : Text) (es : List (Text × Value)) :
    Except Fault Text := do
  let parts ← es.mapM fun e => do
    let v ← tell e.2
    pure (e.1 ++ "=" ++ v)
  pure (name ++ "(" ++ commaList parts ++ ")")

/-- Counts from the most common on; as they stand when they have no order. -/
def byCount (s : Store) (es : List (Value × Value)) : Option (List (Value × Value)) :=
  match sortItems (fun e f => s.less? e.2 f.2) es.reverse with
  | (sorted, true) => some sorted.reverse
  | (_, false) => none

/-- The content of a cell, given how to show the values in it. -/
def displayWith (s : Store) (tell : Value → Except Fault Text) : Cell → Except Fault Text
  | list xs => do
      let parts ← xs.mapM tell
      pure ('[' :: commaList parts ++ [']'])
  | tuple xs => do
      match ← xs.mapM tell with
      | [x] => pure ('(' :: x ++ [',', ')'])
      | parts => pure ('(' :: commaList parts ++ [')'])
  | set frozen xs => do
      let parts ← xs.mapM tell
      let name : Text := if frozen then "frozenset" else "set"
      if parts.isEmpty then pure (name ++ "()")
      else
        let inner := '{' :: commaList parts ++ ['}']
        pure (if frozen then name ++ "(" ++ inner ++ ")" else inner)
  | deque xs maxLength => do
      let parts ← xs.mapM tell
      let limit : Text := match maxLength with
        | some n => ", maxlen=" ++ natText n
        | none => []
      pure ("deque([" ++ commaList parts ++ "]" ++ limit ++ ")")
  | wrappedList a | wrappedMap a => tell (.ref a)
  | array code xs =>
      let parts := xs.map Scalar.display
      let content : Text :=
        if code = 'u' then
          quoted (xs.flatMap fun x => match x with | .text t => t | _ => [])
        else '[' :: commaList parts ++ [']']
      let content : Text := if xs.isEmpty then [] else ", " ++ content
      pure ("array('" ++ [code] ++ "'" ++ content ++ ")")
  | map .plain es => displayEntries tell es
  | map .ordered es => do
      let parts ← es.mapM (pairText tell)
      let content : Text := if parts.isEmpty then [] else '[' :: commaList parts ++ [']']
      pure ("OrderedDict(" ++ content ++ ")")
  | map .counting es => do
      if es.isEmpty then pure "Counter()"
      else
        let inner ← displayEntries tell ((byCount s es).getD es)
        pure ("Counter(" ++ inner ++ ")")
  | map .defaulting es => do
      let inner ← displayEntries tell es
      pure ("defaultdict(<class 'int'>, " ++ inner ++ ")")
  | proxy a => do
      let inner ← tell (.ref a)
      pure ("mappingproxy(" ++ inner ++ ")")
  | bag es => displayFields tell "namespace" es
  | namedTuple name es => displayFields tell name es
  | record t values =>
      let fields := (t.fields.zip values).filter (·.1.2)
      displayFields tell t.name (fields.map fun f => (f.1.1, f.2))
  | function _ => pure "<function>"
  | custom c => c.shown.say

end Cell

/-- The view of a mapping, given how to show the values in it. -/
def displayView (s : Store) (tell : Value → Except Fault Text) (kind : ViewKind) (a : Address) :
    Except Fault Text := do
  let name := Value.viewName s kind a
  match s[a]? with
  | some (.wrappedMap data) =>
      let inner ← tell (.ref data)
      pure (name ++ "(" ++ inner ++ ")")
  | some c =>
      let es := (c.entries? s).getD []
      let parts ← es.mapM fun e =>
        match kind with
        | .keys => tell e.1
        | .values => tell e.2
        | .items => Cell.pairText tell e
      pure (name ++ "([" ++ commaList parts ++ "])")
  | none => pure name

/-- The text of a value. `active` holds the guarded containers around it, `since` the others
    entered since the innermost of those: coming back to one of these never ends. -/
def displayFrom (s : Store) (active since : List Address) (v : Value) : Except Fault Text :=
  match v with
  | .scalar x => .ok x.display
  | .decimal d => .ok ("Decimal('" ++ d.text ++ "')")
  | .range a b c =>
      let step : Text := if c = 1 then [] else ", " ++ intText c
      .ok ("range(" ++ intText a ++ ", " ++ intText b ++ step ++ ")")
  | .type t => .ok t.display
  | .notImplemented => .ok "NotImplemented"
  | .method _ name => .ok ("<method " ++ name ++ ">")
  | .view kind a =>
      match _h : s[a]? with
      | none => .ok []
      | some _ =>
          if _hs : a ∈ since then .error .descent
          else displayView s (fun w => displayFrom s active (a :: since) w) kind a
  | .ref a =>
      match _h : s[a]? with
      | none => .ok []
      | some c =>
          if c.isGuarded then
            if _ha : a ∈ active then .ok c.mark
            else c.displayWith s fun w => displayFrom s (a :: active) [] w
          else if _hs : a ∈ since then .error .descent
          else c.displayWith s fun w => displayFrom s active (a :: since) w
termination_by (s.unseen active, s.unseen since)
decreasing_by
  · exact Prod.Lex.right _ (Store.unseen_cons_lt _hs _h)
  · exact Prod.Lex.left _ _ (Store.unseen_cons_lt _ha _h)
  · exact Prod.Lex.right _ (Store.unseen_cons_lt _hs _h)

namespace Store

def display (s : Store) (v : Value) : Except Fault Text := displayFrom s [] [] v

/-- The text of a value; a failure is shown in its place. -/
def safeDisplay (s : Store) (v : Value) : Text :=
  match s.display v with
  | .ok t => t
  | .error f => "<" ++ v.typeName s ++ " object (repr failed: " ++ f.kind.name ++ ")>"

/-- The text a value converts to: text is itself, and an object may have one of its own. -/
def speak (s : Store) (v : Value) : Except Fault Text :=
  match v with
  | .scalar (.text t) => .ok t
  | .decimal d => .ok d.text
  | .ref a =>
      match s[a]? with
      | some (.custom c) => (c.spoken.getD c.shown).say
      | _ => s.display v
  | _ => s.display v

/-- The text a value converts to; a failure is shown in its place. -/
def safeSpeak (s : Store) (v : Value) : Text :=
  match s.speak v with
  | .ok t => t
  | .error f => "<" ++ v.typeName s ++ " object (str failed: " ++ f.kind.name ++ ")>"

end Store

end Stencil

import Stencil.Method.Array
import Stencil.Method.Mapping
import Stencil.Method.Number
import Stencil.Method.Queue
import Stencil.Method.Text
import Stencil.Value.Formatted

/-! # Calling values

What a call does: a function follows its behaviour, a record type makes a
record, and a method acts on its owner. A fault raised inside is the call's own
and is not looked at here.
-/

namespace Stencil

def Store.callable (s : Store) : Value → Bool
  | .type _ | .method .. => true
  | .ref a =>
      match s[a]? with
      | some (.function _) => true
      | some (.custom c) => c.call.isSome
      | _ => false
  | _ => false

namespace Method

def follow (b : Behaviour) (args : List Value) : Act Value :=
  match b with
  | .echo => Act.allocate (.tuple args)
  | .give v => pure v
  | .fail f => throw f

/-- What a person says to greet: the values of their name and age. -/
def greet (values : List Value) : Act Value := do
  match values with
  | [name, age] => do
      let s ← get
      let name ← liftExcept (s.format name [])
      let age ← liftExcept (s.format age [])
      let text : Text := "Hello, my name is " ++ name ++ " and I am " ++ age ++ " years old"
      pure (.text text)
  | _ => Act.fail .badType
where
  /-- A result as an action. -/
  liftExcept (r : Except Fault Text) : Act Text :=
    match r with
    | .ok t => pure t
    | .error f => throw f

def callCell (a : Address) (c : Cell) (name : String) (args : List Value) : Act Value := do
  match c with
  | .list xs =>
      match name, args with
      | "copy", [] => Act.allocate (.list xs)
      | _, _ => callList a xs name args
  | .wrappedList b => do
      let s ← get
      match s[b]? with
      | some (.list xs) =>
          match name, args with
          | "copy", [] => do
              let data ← Act.allocate (.list xs)
              match data with
              | .ref d => Act.allocate (.wrappedList d)
              | v => pure v
          | _, _ => callList b xs name args
      | _ => Act.fail .badType
  | .tuple xs => callTuple xs name args
  | .namedTuple _ es =>
      match name, args with
      | "_asdict", [] => Act.allocate (.map .plain (es.map fun e => (.text e.1, e.2)))
      | _, _ => callTuple (es.map (·.2)) name args
  | .set _ xs => callSet a xs name args
  | .deque xs limit => callDeque a xs limit name args
  | .array code xs => callArray a code xs name args
  | .record _ values =>
      match name, args with
      | "greet", [] => greet values
      | _, _ => Act.fail .badType
  | _ => do
      let s ← get
      match s.mapAt? a with
      | some (b, style, es) =>
          match c, name, args with
          | .wrappedMap _, "copy", [] => do
              let data ← Act.allocate (.map style es)
              match data with
              | .ref d => Act.allocate (.wrappedMap d)
              | v => pure v
          | .proxy target, _, _ => callMapping target b style es name args
          | _, _, _ => callMapping a b style es name args
      | none => Act.fail .badType

def callOn (owner : Value) (name : Text) (args : List Value) : Act Value := do
  let name := String.ofList name
  match owner with
  | .scalar (.text t) => callText t name args
  | .scalar (.int i) => callInteger i name args
  | .scalar (.bool b) => callInteger (if b then 1 else 0) name args
  | .scalar (.float x) => callFloat x name args
  | .scalar (.bytes bs) => callBytes bs name args
  | .ref a => do
      let s ← get
      match s[a]? with
      | some c => callCell a c name args
      | none => Act.fail .badType
  | _ => Act.fail .badType

def call (v : Value) (args : List Value) : Act Value := do
  match v with
  | .method owner name => callOn owner name args
  | .type (.record t) =>
      if args.length = t.fields.length then Act.allocate (.record t args)
      else Act.fail .badType
  | .ref a => do
      let s ← get
      match s[a]? with
      | some (.function b) => follow b args
      | some (.custom c) =>
          match c.call with
          | some b => follow b args
          | none => Act.fail .badType
      | _ => Act.fail .badType
  | _ => Act.fail .badType

end Method

end Stencil

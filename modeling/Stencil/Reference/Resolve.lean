import Stencil.Method.Call
import Stencil.World

/-! # Resolving references

The value a reference names among the arguments of a rendering. Steps are taken
from left to right and none behind one that fails. A look-up that finds nothing
is an unresolved reference; a fault raised inside of a call is not.
-/

namespace Stencil

structure Arguments where
  positional : List Value
  named : List (Text × Value)

namespace Step

/-- The arguments that the items of a literal make; none for what has no items. -/
def spread? : Literal → Option (List Literal)
  | .tuple xs | .list xs | .set xs => some xs
  | .dict es => some (es.map (·.1))
  | .scalar (.text t) => some (t.map fun c => .scalar (.text [c]))
  | .scalar (.bytes bs) => some (bs.map fun b => .scalar (.int b.toNat))
  | .scalar _ => none

def build (l : Literal) : Act Value := do
  let s ← get
  let (v, s) := l.build s
  set s
  pure v

def buildAll : List Literal → Act (List Value)
  | [] => pure []
  | l :: ls => do
      let v ← build l
      let vs ← buildAll ls
      pure (v :: vs)

/-- Whether a fault of reading an item means that the item is not there. -/
def isMissingItem (k : FaultKind) : Bool := k == .missingKey || k == .badIndex || k == .badType

/-- Takes a step from a value, for the reference with a text. -/
def take (text : Text) (step : Step) (v : Value) : Run Value := do
  let s ← Run.store
  let typeName := v.typeName s
  match step with
  | .attribute name =>
      Run.ofAct
        (fun f =>
          if f.kind = .missingAttribute then .unresolved (.noAttribute typeName name) text
          else .fault f)
        (Store.readAttribute v name)
  | .item key =>
      Run.ofAct
        (fun f =>
          if isMissingItem f.kind then .unresolved (.noItem key typeName f.kind) text
          else .fault f)
        (do
          let k ← build key
          Store.readItem v k)
  | .call arguments =>
      if s.callable v then
        Run.ofAct .fault (do
          let ls ← Act.orFail .badType (spread? arguments)
          let vs ← buildAll ls
          Method.call v vs)
      else throw (.unresolved (.notCallable typeName) text)

end Step

namespace Reference

/-- The argument a head names. -/
def start (a : Arguments) (text : Text) : Head → Except Failure Value
  | .index n =>
      match a.positional[n]? with
      | some v => .ok v
      | none => .error (.unresolved (.noPosition n a.positional.length) text)
  | .name t =>
      match a.named.lookup t with
      | some v => .ok v
      | none => .error (.unresolved (.noKeyword t) text)

def walk (text : Text) : List Step → Value → Run Value
  | [], v => pure v
  | step :: steps, v => do
      let w ← step.take text v
      walk text steps w

def resolve (r : Reference) (a : Arguments) : Run Value := do
  let v ← ExceptT.mk (pure (start a r.text r.head))
  walk r.text r.steps v

end Reference

end Stencil

import Stencil.Directive
import Stencil.Reference.Resolve

/-! # Rendering templates

A template is read and all its specs are checked before any argument is looked
at; then its placeholders are resolved and rendered from left to right, each one
before the next is resolved. Text is written only when all of it is there.
-/

namespace Stencil

namespace Template

/-- What a placeholder asks for. -/
structure Demand where
  directive : Directive
  reference : Reference

def demand (p : Placeholder) : Except Failure Demand :=
  match Directive.ofSpec? p.spec with
  | some d => .ok ⟨d, p.reference⟩
  | none => .error (.spec .malformed (p.spec.getD []) (some p.position))

/-- The literal texts with the demands behind them, when all specs are well formed. -/
def demands : List (Text × Placeholder) → Except Failure (List (Text × Demand))
  | [] => .ok []
  | (text, p) :: spans => do
      let d ← demand p
      let rest ← demands spans
      pure ((text, d) :: rest)

/-- The texts and the rendered values behind them. -/
def renderSpans (a : Arguments) : List (Text × Demand) → Run Text
  | [] => pure []
  | (text, d) :: spans => do
      let v ← d.reference.resolve a
      let shown ← d.directive.render v
      let rest ← renderSpans a spans
      pure (text ++ shown ++ rest)

end Template

/-- The text a template gives for some arguments. -/
def render (template : Text) (a : Arguments) : Run Text := do
  let t ← ExceptT.mk (pure ((Template.read template).mapError Failure.template))
  let spans ← ExceptT.mk (pure (Template.demands t.spans))
  let shown ← Template.renderSpans a spans
  pure (shown ++ t.tail)

def print (template : Text) (a : Arguments) : Run Unit := do
  let text ← render template a
  Run.write text

end Stencil

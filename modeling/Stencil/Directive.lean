import Stencil.Format.Standard
import Stencil.Layout.Container
import Stencil.Value.Formatted
import Stencil.World

/-! # Directives

How a placeholder wants its value: as it speaks, laid out, on one line, over
several lines, or under a format spec. Which of these a spec asks for is decided
without a value; whether a value takes a format spec, only when it is rendered.
-/

namespace Stencil

/-- A way to render a value. -/
inductive Directive where
  /-- The text the value converts to. -/
  | plain
  /-- Arrays and mappings laid out for reading. -/
  | array
  /-- The structural text on one line. -/
  | compact
  /-- The structural text over several lines. -/
  | expanded
  /-- The presentation that a format spec describes. -/
  | numeric (spec : Text)
  deriving DecidableEq, Repr

namespace Directive

/-- The directive a spec asks for: none or an empty one for plain text, one of three letters, or a
    format spec. Anything else is malformed. -/
def ofSpec? : Option Text → Option Directive
  | none => some plain
  | some [] => some plain
  | some ['a'] => some array
  | some ['c'] => some compact
  | some ['j'] => some expanded
  | some spec => if Format.isStandardSpec spec then some (numeric spec) else none

/-- Whether a value of this kind shows a precision without a letter as fixed places. -/
def hasFixedPlaces : Value → Bool
  | .scalar (.float _) | .decimal _ => true
  | _ => false

/-- The spec that a value is formatted with: floats and decimals take a precision alone as a number
    of places. -/
def effectiveSpec (v : Value) (spec : Text) : Text :=
  if hasFixedPlaces v && Format.isPrecisionOnly spec then spec ++ ['f'] else spec

/-- A value under a format spec. A spec the value refuses is reported as it was applied. -/
def formatNumeric (s : Store) (v : Value) (spec : Text) : Except Failure Text :=
  let spec := effectiveSpec v spec
  match s.format v spec with
  | .ok t => .ok t
  | .error f =>
      if f.kind.isBadValue || f.kind == .badType then
        .error (.spec (.refused (v.typeName s) f.text) spec none)
      else .error (.fault f)

def render (d : Directive) (v : Value) : Run Text := do
  let s ← Run.store
  match d with
  | plain => pure (s.safeSpeak v)
  | array => do
      let (text, warning) := s.layOut v
      Run.warn warning
      pure text
  | compact => pure (s.compactText v)
  | expanded => pure (s.expand Layout.standardIndent v)
  | numeric spec => ExceptT.mk (pure (formatNumeric s v spec))

end Directive

end Stencil

import Stencil.Format.Decimal
import Stencil.Value.Display

/-! # Values under a format spec

Numbers and text have presentations of their own, an object may answer for
itself, and every other value takes the empty spec only.
-/

namespace Stencil

/-- A refused spec as a fault of the value. -/
def FormatFault.toFault : FormatFault → Fault
  | refused (.unsupported t) => ⟨.badType, (SpecFault.unsupported t).message⟩
  | refused r => ⟨.badValue, r.message⟩
  | outOfRange r => ⟨.overflow, r.message⟩

/-- A result of formatting as a result of a value. -/
def formatted (r : Except FormatFault Text) : Except Fault Text := r.mapError FormatFault.toFault

namespace Store

/-- A value without presentations under a spec. -/
def formatPlainly (s : Store) (v : Value) (spec : Text) : Except Fault Text :=
  if spec.isEmpty then s.speak v
  else formatted (.error (.refused (.unsupported (v.qualifiedTypeName s))))

def format (s : Store) (v : Value) (spec : Text) : Except Fault Text :=
  match v with
  | .scalar (.text t) => formatted (Format.formatText t spec)
  | .scalar (.int i) =>
      if spec.isEmpty then s.speak v else formatted (Format.formatInteger "int" i spec)
  | .scalar (.bool b) =>
      if spec.isEmpty then s.speak v
      else formatted (Format.formatInteger "bool" (if b then 1 else 0) spec)
  | .scalar (.float x) => formatted (Format.formatFloat x spec)
  | .scalar (.complex re im) => formatted (Format.formatComplex re im spec)
  | .decimal d => formatted (Format.formatDecimal d spec)
  | .ref a =>
      match s[a]? with
      | some (.custom c) =>
          match c.format with
          | some (.speech t) => t.say
          | some .echo => .ok ('<' :: c.name ++ "|" ++ spec ++ ">")
          | none => s.formatPlainly v spec
      | _ => s.formatPlainly v spec
  | _ => s.formatPlainly v spec

end Store

end Stencil

import Stencil.Fault
import Stencil.Template

/-! # Failures

Everything that can come out of reading or rendering a template, by cause. The
wording of each is a function of its cause, the offending text, and the place in
the template where that is known.
-/

namespace Stencil

/-- Why a reference names nothing. -/
inductive UnresolvedFault where
  | noPosition (index given : Nat)
  | noKeyword (name : Text)
  | noAttribute (typeName name : Text)
  | noItem (key : Literal) (typeName : Text) (kind : FaultKind)
  | notCallable (typeName : Text)
  deriving Repr

def UnresolvedFault.message : UnresolvedFault → Text
  | noPosition index given =>
      "positional argument " ++ natText index ++ " not provided (" ++ natText given ++ " given)"
  | noKeyword name => "keyword argument " ++ quoted name ++ " not provided"
  | noAttribute typeName name => quoted typeName ++ " object has no attribute " ++ quoted name
  | noItem key typeName kind =>
      "cannot get item " ++ key.display ++ " of " ++ quoted typeName ++ " object: " ++ kind.name
  | notCallable typeName => quoted typeName ++ " object is not callable"

inductive BadSpec where
  /-- It does not have the form of one. -/
  | malformed
  /-- A value of a type refuses it. -/
  | refused (typeName reason : Text)
  deriving Repr

def BadSpec.message : BadSpec → Text
  | malformed => "invalid format spec"
  | refused typeName reason =>
      "invalid format spec for " ++ quoted typeName ++ " value (" ++ reason ++ ")"

/-- What can come out of a rendering instead of text. -/
inductive Failure where
  | template (e : TemplateError)
  | reference (fault : ReferenceFault) (text : Text)
  | unresolved (fault : UnresolvedFault) (text : Text)
  | spec (fault : BadSpec) (spec : Text) (position : Option Nat)
  /-- A fault that a value raised. -/
  | fault (f : Fault)
  /-- The input ended where a line was asked for. -/
  | endOfInput
  deriving Repr

namespace Failure

/-- A message with the place it is about and the offending text. -/
def located (message : Text) (position : Option Nat) (fragment : Text) : Text :=
  let place : Text := match position with
    | some n => " at position " ++ natText n
    | none => []
  message ++ place ++ ": " ++ quoted fragment

def message : Failure → Text
  | template e => located e.fault.message (some e.position) e.fragment
  | reference f t => located f.message none t
  | unresolved f t => located f.message none t
  | spec f t position => located f.message position t
  | fault f => f.text
  | endOfInput => "no more input"

end Failure

end Stencil

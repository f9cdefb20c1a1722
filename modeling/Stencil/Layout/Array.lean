import Stencil.Layout.Nested
import Stencil.Layout.Profile
import Stencil.Text.Quoted

/-! # Laying out arrays

Bracketed text of nesting two to four is laid out by fixed replacements of what
stands between its innermost rows; anything deeper goes through the general
pass. Replacements see unquoted runs only.
-/

namespace Stencil.Layout

/-- Texts to replace and their replacements, in order. -/
abbrev Replacements := List (Text × Text)

/-- The replacements for one nesting depth: outer brackets first, then the seams between elements from
    the outermost in. -/
def arrayReplacements? (depth : Int) : Option Replacements :=
  if depth = 2 then some
    [("[[", "[\n    ["),
     ("]]", "]\n]"),
     ("], [", "],\n    [")]
  else if depth = 3 then some
    [("[[[", "[\n    [\n        ["),
     ("]]]", "]\n    ]\n]"),
     ("]], [[", "]\n    ],\n    [\n        ["),
     ("], [", "],\n        [")]
  else if depth = 4 then some
    [("[[[[", "[\n    [\n        [\n            ["),
     ("]]]]", "]\n        ]\n    ]\n]"),
     ("]]], [[[", "]\n        ]\n    ],\n    [\n        [\n            ["),
     ("]], [[", "]\n        ],\n        [\n            ["),
     ("], [", "],\n            [")]
  else none

/-- All replacements applied to a text one after the other. -/
def replaceEach (rs : Replacements) (t : Text) : Text :=
  rs.foldl (fun t r => Text.replaceAll r.1 r.2 t) t

def replaceUnquoted (rs : Replacements) (t : Text) : Text :=
  (runs (scan t)).flatMap fun run => if run.2 then run.1 else replaceEach rs run.1

def standardIndent : Int := 4

/-- Bracketed text laid out for a nesting depth. -/
def layArray (t : Text) (depth : Int) : Text :=
  if depth ≤ 1 then t
  else match arrayReplacements? depth with
    | some rs => replaceUnquoted rs t
    | none => formatNested t standardIndent

/-- The warning about a text whose brackets are not balanced. -/
def imbalance? (t : Text) : Option Text :=
  if (profile t).balanced then none
  else some ("unbalanced brackets in debug text: " ++ quoted (t.take 40))

/-- Bracketed text laid out for a nesting depth, its own unless another one is given, and the
    warning about its brackets. -/
def formatArray (t : Text) (depth : Option Int) : Text × Option Text :=
  (layArray t (depth.getD (nestingDepth t)), imbalance? t)

end Stencil.Layout

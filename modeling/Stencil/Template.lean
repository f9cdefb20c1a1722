import Stencil.Reference.Parse

/-! # Templates

A template is literal text with placeholders in it. Braces stand for themselves
when they are doubled; a single one opens a placeholder, whose body is a
reference and perhaps a format spec behind the first colon outside of
parentheses. Reading goes through the text once, and a fault names where the
placeholder it is in begins.
-/

namespace Stencil

structure Placeholder where
  /-- The placeholder with its braces. -/
  raw : Text
  /-- The text of the reference, without outer blanks. -/
  expression : Text
  /-- The text behind the colon, when there is one. -/
  spec : Option Text
  /-- The offset of the opening brace. -/
  position : Nat
  reference : Reference
  deriving Repr

/-- A template: pairs of literal text and the placeholder behind it, and the text behind the last
    placeholder. -/
structure Template where
  spans : List (Text × Placeholder)
  tail : Text
  deriving Repr

/-- Why a text is no template. -/
inductive TemplateFault where
  | singleBrace
  | nestedBrace
  | unbalancedClose
  | unbalancedOpen
  | unterminated
  | emptyPlaceholder
  | emptyExpression
  | badReference (fault : ReferenceFault)
  deriving Repr

/-- A fault of a template with the text it concerns and where that begins. -/
structure TemplateError where
  fault : TemplateFault
  fragment : Text
  position : Nat
  deriving Repr

def TemplateFault.message : TemplateFault → Text
  | singleBrace => "single '\x7d' in template"
  | nestedBrace => "nested '\x7b' in placeholder"
  | unbalancedClose => "unbalanced ')' in placeholder"
  | unbalancedOpen => "unbalanced '(' in placeholder"
  | unterminated => "unterminated placeholder"
  | emptyPlaceholder => "empty placeholder"
  | emptyExpression => "empty expression in placeholder"
  | badReference f => f.message

namespace Template

/-- The literal texts in order, one more than there are placeholders. -/
def literals (t : Template) : List Text := t.spans.map (·.1) ++ [t.tail]

def placeholders (t : Template) : List Placeholder := t.spans.map (·.2)

/-- The body of a placeholder up to its closing brace, and the text behind that, `depth`
    parentheses being open. A fault comes with the text up to where it shows. -/
def scanBody (depth : Nat) : Text → Except (TemplateFault × Text) (Text × Text)
  | [] => .error (.unterminated, [])
  | c :: t =>
      let onward (depth : Nat) : Except (TemplateFault × Text) (Text × Text) :=
        match scanBody depth t with
        | .ok (body, rest) => .ok (c :: body, rest)
        | .error (f, seen) => .error (f, c :: seen)
      if c = '{' then .error (.nestedBrace, [c])
      else if c = '(' then onward (depth + 1)
      else if c = ')' then
        if depth = 0 then .error (.unbalancedClose, [c]) else onward (depth - 1)
      else if c = '}' then
        if depth = 0 then .ok ([], t) else .error (.unbalancedOpen, [c])
      else onward depth

/-- A body cut at its first colon outside of parentheses. -/
def splitSpec (depth : Nat) : Text → Text × Option Text
  | [] => ([], none)
  | c :: t =>
      if c = ':' ∧ depth = 0 then ([], some t)
      else
        let depth := if c = '(' then depth + 1 else if c = ')' then depth - 1 else depth
        let (expression, spec) := splitSpec depth t
        (c :: expression, spec)

def placeholder (body : Text) (position : Nat) : Except TemplateError Placeholder :=
  let raw := '{' :: body ++ ['}']
  if Text.isBlank body then .error ⟨.emptyPlaceholder, raw, position⟩
  else
    let (front, spec) := splitSpec 0 body
    let expression := Text.trim front
    if expression = [] then .error ⟨.emptyExpression, raw, position⟩
    else match Reference.read expression with
      | .error f => .error ⟨.badReference f, expression, position⟩
      | .ok reference => .ok { raw, expression, spec, position, reference }

/-- A template with a character in front of its first literal. -/
def addChar (c : Char) (t : Template) : Template :=
  match t.spans with
  | [] => { t with tail := c :: t.tail }
  | (text, p) :: spans => { t with spans := (c :: text, p) :: spans }

/-- A template with a placeholder in front of it. -/
def addPlaceholder (p : Placeholder) (t : Template) : Template :=
  { t with spans := ([], p) :: t.spans }

theorem scanBody_length {depth : Nat} {t body rest : Text}
    (h : scanBody depth t = .ok (body, rest)) : body.length + rest.length + 1 = t.length := by
  induction t generalizing depth body rest with
  | nil => simp [scanBody] at h
  | cons c t ih =>
    have onward : ∀ d, (match scanBody d t with
        | .ok (body, rest) => .ok (c :: body, rest)
        | .error (f, seen) => .error (f, c :: seen) :
          Except (TemplateFault × Text) (Text × Text)) = .ok (body, rest) →
        body.length + rest.length + 1 = (c :: t).length := by
      intro d hd
      cases hs : scanBody d t with
      | error e => simp [hs] at hd
      | ok r =>
        simp only [hs, Except.ok.injEq, Prod.mk.injEq] at hd
        have := @ih d r.1 r.2 hs
        simp [← hd.1, ← hd.2]
        omega
    simp only [scanBody] at h
    split at h
    · simp at h
    · split at h
      · exact onward _ h
      · split at h
        · split at h
          · simp at h
          · exact onward _ h
        · split at h
          · split at h
            · simp only [Except.ok.injEq, Prod.mk.injEq] at h
              simp [← h.1, ← h.2]
            · simp at h
          · exact onward _ h

/-- Reads a template that begins at an offset. -/
def readFrom (position : Nat) (t : Text) : Except TemplateError Template :=
  match t with
  | [] => .ok ⟨[], []⟩
  | '{' :: '{' :: t => (readFrom (position + 2) t).map (addChar '{')
  | '}' :: '}' :: t => (readFrom (position + 2) t).map (addChar '}')
  | '}' :: _ => .error ⟨.singleBrace, ['}'], position⟩
  | '{' :: t =>
      match _h : scanBody 0 t with
      | .error (f, seen) => .error ⟨f, '{' :: seen, position⟩
      | .ok (body, rest) =>
          match placeholder body position with
          | .error e => .error e
          | .ok p => (readFrom (position + body.length + 2) rest).map (addPlaceholder p)
  | c :: t => (readFrom (position + 1) t).map (addChar c)
termination_by t.length
decreasing_by
  all_goals simp only [List.length_cons]
  all_goals (try have := scanBody_length _h)
  all_goals omega

def read (t : Text) : Except TemplateError Template := readFrom 0 t

end Template

end Stencil

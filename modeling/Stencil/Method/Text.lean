import Stencil.Text.Case
import Stencil.Value.Act

/-! # Methods of text

Searching, cutting, joining and padding of text. Apart from capitals, letters
beyond ASCII have no case here.
-/

namespace Stencil.Method

def swapCase (t : Text) : Text :=
  t.map fun c => if c.isUpper then c.toLower else c.toUpper

/-- A capital at the start of each run of letters and small letters behind it. -/
def titleFrom (inWord : Bool) : Text → Text
  | [] => []
  | c :: t => (if inWord then c.toLower else c.toUpper) :: titleFrom c.isAlpha t

/-- A capital first letter and small letters behind it. -/
def capitalize : Text → Text
  | [] => []
  | c :: t => c.toUpper :: t.map Char.toLower

/-- A bound of a part of `n` items: from the end when negative, and within the items. -/
def bound (n : Nat) (i : Int) : Nat := if i < 0 then (i + n).toNat else min i.toNat n

/-- An optional bound; nothing stands for the standard one. -/
def bound? (n standard : Nat) : Option Value → Act Nat
  | none => pure standard
  | some (.scalar .none) => pure standard
  | some v => do
      let i ← Act.orFail .badType v.integer?
      pure (bound n i)

/-- The part of a text that optional start and end arguments name, with its offset. Nothing is left
    when the start lies behind the text or the end. -/
def partOf (t : Text) (args : List Value) : Act (Option (Nat × Text)) := do
  let start ← bound? t.length 0 args[0]?
  let stop ← bound? t.length t.length args[1]?
  let beyond : Bool := match args[0]?.bind Value.integer? with
    | some i => decide (i > (t.length : Int))
    | none => false
  let outside : Bool := decide (start > stop) || beyond
  if outside then pure none
  else pure (some (start, (t.take stop).drop start))

def findIn (t : Text) (args : List Value) : Act (Option Nat) := do
  match args with
  | v :: bounds =>
      let part ← Act.orFail .badType v.text?
      Act.require .badType (bounds.length ≤ 2)
      match ← partOf t bounds with
      | some (offset, inner) => pure ((Text.find? part inner).map (· + offset))
      | none => pure none
  | [] => Act.fail .badType

/-- Whether a text has one of some starts or ends. -/
def hasEdge (test : Text → Text → Bool) (t : Text) (args : List Value) : Act Value := do
  match args with
  | v :: bounds =>
      Act.require .badType (bounds.length ≤ 2)
      let s ← get
      let parts ←
        match v with
        | .scalar (.text p) => pure [p]
        | .ref a =>
            match s[a]? with
            | some (.tuple xs) => xs.mapM fun x => Act.orFail .badType x.text?
            | _ => Act.fail .badType
        | _ => Act.fail .badType
      match ← partOf t bounds with
      | some (_, inner) => pure (.truth (parts.any (test inner)))
      | none => pure (.truth false)
  | [] => Act.fail .badType

/-- Width and fill character of a padding. -/
def paddingOf (args : List Value) : Act (Nat × Char) := do
  match args with
  | [w] => do
      let n ← Act.orFail .badType w.integer?
      pure (n.toNat, ' ')
  | [w, f] => do
      let n ← Act.orFail .badType w.integer?
      match f.text? with
      | some [c] => pure (n.toNat, c)
      | _ => Act.fail .badType
  | _ => Act.fail .badType

/-- A text in the middle of a width; an odd rest goes to the left when the width is odd. -/
def centered (t : Text) (width : Nat) (fill : Char) : Text :=
  let rest := width - t.length
  let left := rest / 2 + (if rest % 2 = 1 ∧ width % 2 = 1 then 1 else 0)
  List.replicate left fill ++ t ++ List.replicate (rest - left) fill

def zeroFilled (t : Text) (width : Nat) : Text :=
  let zeros := List.replicate (width - t.length) '0'
  match t with
  | '-' :: u => '-' :: zeros ++ u
  | '+' :: u => '+' :: zeros ++ u
  | u => zeros ++ u

/-- What is stripped from the ends of a text: blanks, or the characters of an argument. -/
def stripSet (args : List Value) : Act (Char → Bool) := do
  match args with
  | [] | [.scalar .none] => pure isBlank
  | [v] => do
      let cs ← Act.orFail .badType v.text?
      pure fun c => cs.contains c
  | _ => Act.fail .badType

/-- A text without the characters of a class at its ends. -/
def stripped (p : Char → Bool) (left right : Bool) (t : Text) : Text :=
  let t := if left then t.dropWhile p else t
  if right then (t.reverse.dropWhile p).reverse else t

def replaceSome (old new t : Text) (count : Option Nat) : Text :=
  match count with
  | none => Text.replaceAll old new t
  | some n =>
      if old.isEmpty then
        (t.take n).flatMap (fun c => new ++ [c]) ++ (if n > t.length then new else []) ++ t.drop n
      else Text.joinWith new (Text.splitFrom old (some n) 0 t)

/-- An optional count, which is no limit when it is negative. -/
def limitOf : Option Value → Act (Option Nat)
  | none => pure none
  | some v => do
      let n ← Act.orFail .badType v.integer?
      pure (if n < 0 then none else some n.toNat)

def splitText (t : Text) (args : List Value) : Act Value := do
  Act.require .badType (args.length ≤ 2)
  let limit ← limitOf args[1]?
  let pieces ←
    match args[0]? with
    | none | some (.scalar .none) => pure (Text.words limit t)
    | some v => do
        let sep ← Act.orFail .badType v.text?
        Act.require .badValue (!sep.isEmpty)
        pure (Text.splitFrom sep limit 0 t)
  Act.allocate (.list (pieces.map .text))

def callText (t : Text) (name : String) (args : List Value) : Act Value := do
  let plain (u : Text) : Act Value := do
    Act.require .badType args.isEmpty
    pure (.text u)
  match name with
  | "upper" => plain (Text.toUpper t)
  | "lower" => plain (t.map Char.toLower)
  | "title" => plain (titleFrom false t)
  | "capitalize" => plain (capitalize t)
  | "swapcase" => plain (swapCase t)
  | "isupper" => do
      Act.require .badType args.isEmpty
      pure (.truth (Text.isUpper t))
  | "replace" =>
      match args with
      | old :: new :: rest => do
          let old ← Act.orFail .badType old.text?
          let new ← Act.orFail .badType new.text?
          Act.require .badType (rest.length ≤ 1)
          let count ← limitOf rest[0]?
          pure (.text (replaceSome old new t count))
      | _ => Act.fail .badType
  | "split" => splitText t args
  | "join" =>
      match args with
      | [v] => do
          let s ← get
          let items ← Act.orFail .badType (s.iterate? v)
          let parts ← items.mapM fun x => Act.orFail .badType x.text?
          pure (.text (Text.joinWith t parts))
      | _ => Act.fail .badType
  | "find" => do
      let r ← findIn t args
      pure (.int (match r with | some i => i | none => -1))
  | "index" => do
      let r ← findIn t args
      let i ← Act.orFail .badValue r
      pure (.int i)
  | "count" =>
      match args with
      | v :: bounds => do
          let part ← Act.orFail .badType v.text?
          Act.require .badType (bounds.length ≤ 2)
          match ← partOf t bounds with
          | some (_, inner) => pure (.int (Text.count part inner))
          | none => pure (.int 0)
      | [] => Act.fail .badType
  | "startswith" => hasEdge Text.startsWith t args
  | "endswith" => hasEdge Text.endsWith t args
  | "center" => do
      let (w, f) ← paddingOf args
      pure (.text (centered t w f))
  | "ljust" => do
      let (w, f) ← paddingOf args
      pure (.text (t ++ List.replicate (w - t.length) f))
  | "rjust" => do
      let (w, f) ← paddingOf args
      pure (.text (List.replicate (w - t.length) f ++ t))
  | "zfill" =>
      match args with
      | [w] => do
          let n ← Act.orFail .badType w.integer?
          pure (.text (zeroFilled t n.toNat))
      | _ => Act.fail .badType
  | "strip" => do
      let p ← stripSet args
      pure (.text (stripped p true true t))
  | "lstrip" => do
      let p ← stripSet args
      pure (.text (stripped p true false t))
  | "rstrip" => do
      let p ← stripSet args
      pure (.text (stripped p false true t))
  | "partition" =>
      match args with
      | [v] => do
          let sep ← Act.orFail .badType v.text?
          Act.require .badValue (!sep.isEmpty)
          let (before, mid, after) := match Text.cut? sep t with
            | some (a, b) => (a, sep, b)
            | none => (t, [], [])
          Act.allocate (.tuple [.text before, .text mid, .text after])
      | _ => Act.fail .badType
  | "__len__" => do
      Act.require .badType args.isEmpty
      pure (.int t.length)
  | "__contains__" =>
      match args with
      | [v] => do
          let part ← Act.orFail .badType v.text?
          pure (.truth (Text.find? part t).isSome)
      | _ => Act.fail .badType
  | _ => Act.fail .missingAttribute

end Stencil.Method

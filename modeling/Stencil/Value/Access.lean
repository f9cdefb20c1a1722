import Stencil.Value.Act

/-! # Attributes and items

What reading an attribute or an item of a value gives. Attributes that are
methods are given as such and do nothing until they are called. Reading an item
changes something in one case only: a mapping that adds what is missing.
-/

namespace Stencil

def textMethods : List Text :=
  ["upper", "lower", "title", "capitalize", "swapcase", "replace", "split", "join", "find",
   "index", "count", "startswith", "endswith", "center", "ljust", "rjust", "zfill", "strip",
   "lstrip", "rstrip", "partition", "isupper", "__len__", "__contains__"]

def listMethods : List Text :=
  ["index", "count", "pop", "append", "insert", "remove", "extend", "copy", "clear", "reverse",
   "sort", "__len__", "__contains__"]

def mappingMethods : List Text :=
  ["get", "keys", "values", "items", "copy", "__len__", "__contains__"]

/-- The methods of mappings that can change. -/
def mapMethods : List Text :=
  mappingMethods ++ (["pop", "popitem", "setdefault", "update", "clear"] : List Text)

def dequeMethods : List Text :=
  ["append", "appendleft", "insert", "extend", "pop", "popleft", "rotate", "reverse", "remove",
   "index", "count", "copy", "clear", "__len__", "__contains__"]

def arrayMethods : List Text :=
  ["append", "insert", "pop", "remove", "reverse", "index", "count", "tolist", "__len__",
   "__contains__"]

/-- The methods of sets, those that change a set last. -/
def setMethods (frozen : Bool) : List Text :=
  if frozen then ["__len__", "__contains__"]
  else ["__len__", "__contains__", "add", "discard", "remove", "pop", "clear", "copy"]

def Cell.methods : Cell → List Text
  | list _ | wrappedList _ => listMethods
  | tuple _ => ["count", "index", "__len__", "__contains__"]
  | namedTuple .. => ["count", "index", "_asdict", "__len__", "__contains__"]
  | set frozen _ => setMethods frozen
  | deque .. => dequeMethods
  | array .. => arrayMethods
  | map .counting _ => mapMethods ++ (["most_common", "total"] : List Text)
  | map .. | wrappedMap _ => mapMethods
  | proxy _ => mappingMethods
  | record t _ => t.methods
  | _ => []

def Value.plainMethods : Value → List Text
  | .scalar (.text _) => textMethods
  | .scalar (.int _) | .scalar (.bool _) => ["bit_length", "__add__"]
  | .scalar (.float _) => ["is_integer", "as_integer_ratio"]
  | .scalar (.bytes _) => ["decode", "hex"]
  | _ => []

/-- The plain attributes of a scalar. -/
def Scalar.attribute? (x : Scalar) (name : Text) : Option Value :=
  let real : Bool := name == ("real" : Text)
  let imag : Bool := name == ("imag" : Text)
  match x with
  | bool b => (Value.truth b).integer?.bind fun i => ofInteger i
  | int i => ofInteger i
  | float f => if real then some (.float f) else if imag then some (.float (.zero false)) else Option.none
  | complex re im => if real then some (.float re) else if imag then some (.float im) else Option.none
  | _ => Option.none
where
  /-- The attributes of an integer as a fraction and as a complex number. -/
  ofInteger (i : Int) : Option Value :=
    if name == ("real" : Text) || name == ("numerator" : Text) then some (.int i)
    else if name == ("imag" : Text) then some (.int 0)
    else if name == ("denominator" : Text) then some (.int 1)
    else Option.none

namespace Store

/-- The plain attributes of a cell's content. A tuple of names is a new cell. -/
def cellAttribute (c : Cell) (name : Text) : Act (Option Value) := do
  match c with
  | .deque _ maxLength =>
      if name == ("maxlen" : Text) then
        pure (some (match maxLength with | some n => .int n | none => .nothing))
      else pure none
  | .wrappedList a | .wrappedMap a =>
      pure (if name == ("data" : Text) then some (.ref a) else none)
  | .array code _ => pure (if name == ("typecode" : Text) then some (.text [code]) else none)
  | .bag es => pure (es.lookup name)
  | .namedTuple _ es =>
      if name == ("_fields" : Text) then
        let names ← Act.allocate (.tuple (es.map fun e => .text e.1))
        pure (some names)
      else pure (es.lookup name)
  | .record t values => pure (((t.fields.map (·.1)).zip values).lookup name)
  | .custom o =>
      match o.attributeFaults.lookup name with
      | some k => Act.fail k
      | none => pure (o.attributes.lookup name)
  | _ => pure none

def readAttribute (v : Value) (name : Text) : Act Value := do
  let s ← get
  let plain ←
    match v with
    | .scalar x => pure (x.attribute? name)
    | .range a b c =>
        pure ([(("start" : Text), a), ("stop", b), ("step", c)].lookup name |>.map Value.int)
    | .type t =>
        pure (if name == ("__name__" : Text) then
          some (.text (match t with | .named n _ => n | .record r => r.name)) else none)
    | .ref a =>
        match s[a]? with
        | some c => cellAttribute c name
        | none => pure none
    | _ => pure none
  match plain with
  | some w => pure w
  | none =>
      let methods := match v with
        | .ref a => (s[a]?.map Cell.methods).getD []
        | v => v.plainMethods
      if methods.contains name then pure (.method v name)
      else if name == ("__class__" : Text) then pure (.type (v.typeOf s))
      else Act.fail .missingAttribute

/-- The item of a sequence at an index, which counts from the end when it is negative. -/
def itemAt (xs : List Value) (key : Value) : Act Value :=
  match key.integer? with
  | none => Act.fail .badType
  | some i =>
      let i := if i < 0 then i + xs.length else i
      if i < 0 then Act.fail .badIndex else Act.orFail .badIndex xs[i.toNat]?

def entryAt (a : Address) (style : MapStyle) (es : List (Value × Value)) (key : Value) :
    Act Value := do
  let s ← get
  if !s.hashable key then Act.fail .badType
  else match s.lookup? es key with
    | some v => pure v
    | none =>
        match style with
        | .plain | .ordered => Act.fail .missingKey
        | .counting => pure (.int 0)
        | .defaulting =>
            Act.put a (.map style (es ++ [(key, .int 0)]))
            pure (.int 0)

def readItem (v key : Value) : Act Value := do
  let s ← get
  match v with
  | .scalar (.text _) | .scalar (.bytes _) =>
      itemAt ((s.iterate? v).getD []) key
  | .range a b c =>
      match key.integer? with
      | none => Act.fail .badType
      | some i =>
          let n := Value.rangeLength a b c
          let i := if i < 0 then i + n else i
          if i < 0 ∨ n ≤ i then Act.fail .badIndex else pure (.int (a + c * i))
  | .ref a =>
      match s[a]? with
      | some (.custom o) => Act.fail (o.itemFault.getD .badType)
      | some (.list xs) | some (.tuple xs) | some (.deque xs _) => itemAt xs key
      | some (.namedTuple _ es) => itemAt (es.map (·.2)) key
      | some (.array _ xs) => itemAt (xs.map .scalar) key
      | some (.wrappedList _) =>
          match s.listAt? a with
          | some (_, xs) => itemAt xs key
          | none => Act.fail .badType
      | some _ =>
          match s.mapAt? a with
          | some (b, style, es) => entryAt b style es key
          | none => Act.fail .badType
      | none => Act.fail .badType
  | _ => Act.fail .badType

end Store

end Stencil

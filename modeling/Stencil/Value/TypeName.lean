import Stencil.Value.Basic

/-! # Names of types

The name a value's type is shown by, and the longer one that says where the type
is kept. They differ for a few container types only.
-/

namespace Stencil

/-- Whether a method stands for an operator, as its two leading underscores say. -/
def isOperatorMethod (name : Text) : Bool := Text.startsWith name "__"

namespace Cell

/-- The short and the qualified type name of a cell's content. -/
def typeNames : Cell → Text × Text
  | list _ => ("list", "list")
  | tuple _ => ("tuple", "tuple")
  | set false _ => ("set", "set")
  | set true _ => ("frozenset", "frozenset")
  | deque .. => ("deque", "collections.deque")
  | wrappedList _ => ("UserList", "UserList")
  | array .. => ("array", "array.array")
  | map .plain _ => ("dict", "dict")
  | map .ordered _ => ("OrderedDict", "collections.OrderedDict")
  | map .counting _ => ("Counter", "Counter")
  | map .defaulting _ => ("defaultdict", "collections.defaultdict")
  | wrappedMap _ => ("UserDict", "UserDict")
  | proxy _ => ("mappingproxy", "mappingproxy")
  | bag _ => ("SimpleNamespace", "types.SimpleNamespace")
  | namedTuple name _ => (name, name)
  | record t _ => (t.name, t.name)
  | function _ => ("function", "function")
  | custom c => (c.name, c.name)

/-- Whether methods of the content are built in, as against written out beside it. -/
def hasBuiltInMethod (c : Cell) (name : Text) : Bool :=
  match c with
  | wrappedList _ | wrappedMap _ | record .. | custom _ | bag _ => false
  | map .counting _ =>
      !(name ∈ [("most_common" : Text), "total", "update", "elements", "subtract", "copy"])
  | namedTuple .. => !(name ∈ [("_asdict" : Text), "_replace"])
  | _ => true

end Cell

/-- The module and name of types that are shown with a module other than their own name says. -/
def qualifiedTypeNames : List (Text × Text) :=
  [("Counter", "collections.Counter"), ("UserList", "collections.UserList"),
   ("UserDict", "collections.UserDict"), ("Decimal", "decimal.Decimal")]

namespace Value

def viewName (s : Store) (kind : ViewKind) (a : Address) : Text :=
  let wrapped := match s[a]? with | some (.wrappedMap _) => true | _ => false
  let ordered := match s[a]? with | some (.map .ordered _) => true | _ => false
  match kind with
  | .keys => if wrapped then "KeysView" else if ordered then "odict_keys" else "dict_keys"
  | .values => if wrapped then "ValuesView" else if ordered then "odict_values" else "dict_values"
  | .items => if wrapped then "ItemsView" else if ordered then "odict_items" else "dict_items"

def scalarTypeName : Scalar → Text
  | .none => "NoneType"
  | .bool _ => "bool"
  | .int _ => "int"
  | .float _ => "float"
  | .complex .. => "complex"
  | .text _ => "str"
  | .bytes _ => "bytes"
  | .ellipsis => "ellipsis"

def methodTypeName (s : Store) (owner : Value) (name : Text) : Text :=
  let builtIn : Text := "builtin_function_or_method"
  match owner with
  | ref a =>
      match s[a]? with
      | some c =>
          if !c.hasBuiltInMethod name then "method"
          else match c with
            | .map .. | .set .. =>
                if name == ("__contains__" : Text) then builtIn
                else if isOperatorMethod name then "method-wrapper" else builtIn
            | _ => if isOperatorMethod name then "method-wrapper" else builtIn
      | none => builtIn
  | _ => if isOperatorMethod name then "method-wrapper" else builtIn

/-- The short and the qualified name of a value's type. -/
def typeNames (s : Store) : Value → Text × Text
  | scalar x => (scalarTypeName x, scalarTypeName x)
  | decimal _ => ("Decimal", "decimal.Decimal")
  | range .. => ("range", "range")
  | type _ => ("type", "type")
  | notImplemented => ("NotImplementedType", "NotImplementedType")
  | view kind a => (viewName s kind a, viewName s kind a)
  | method owner name => (methodTypeName s owner name, methodTypeName s owner name)
  | ref a =>
      match s[a]? with
      | some c => c.typeNames
      | none => ([], [])

def typeName (s : Store) (v : Value) : Text := (v.typeNames s).1

/-- The name of a value's type with the place it is kept at. -/
def qualifiedTypeName (s : Store) (v : Value) : Text := (v.typeNames s).2

def typeOf (s : Store) (v : Value) : TypeValue :=
  match v with
  | ref a =>
      match s[a]? with
      | some (.record t _) => .record t
      | some c =>
          let (short, long) := c.typeNames
          .named short ((qualifiedTypeNames.lookup short).getD long)
      | none => .named [] []
  | _ =>
      let (short, long) := v.typeNames s
      .named short long

end Value

end Stencil

import Storyline.Json.Display
import Storyline.Template.Tree

/-!
# Scopes and lookups

Paths are looked up in a scope: a value together with the scope around it and, inside
a repetition, a position.  What is not there has the value null.

- `Scope`: what a path starts from;
- `Value`: what a path leads to;
- `resolve`: the value of a path.

A name that is no member of an object or a text, but that objects or texts have an
operation of, leads to that operation, which cannot be shown.
-/

namespace Storyline.Template

/-- The place of an element in a repetition. -/
structure Position where
  index : Nat
  key : Option String
  isFirst : Bool
  isLast : Bool
  deriving DecidableEq, Repr

/-- A value, the scope around it, and its place in a repetition.  Without a scope
around it the value itself stands in for one. -/
inductive Scope where
  | mk (here : Json) (around : Option Scope) (position : Option Position)

/-- What a path leads to. -/
inductive Value where
  | json (v : Json)
  | scope (s : Scope)
  | operation

/-- The value of a scope. -/
def Scope.here : Scope → Json
  | .mk here _ _ => here

/-- The place of a scope in a repetition. -/
def Scope.position : Scope → Option Position
  | .mk _ _ position => position

/-- What is around a scope. -/
def Scope.around : Scope → Value
  | .mk here around _ => around.elim (.json here) .scope

/-- The operations of objects. -/
def objectOperations : List String :=
  ["clear", "copy", "fromkeys", "get", "items", "keys", "pop", "popitem", "setdefault",
   "update", "values"]

/-- The operations of texts. -/
def textOperations : List String :=
  ["capitalize", "casefold", "center", "count", "encode", "endswith", "expandtabs", "find",
   "format", "format_map", "index", "isalnum", "isalpha", "isascii", "isdecimal", "isdigit",
   "isidentifier", "islower", "isnumeric", "isprintable", "isspace", "istitle", "isupper",
   "join", "ljust", "lower", "lstrip", "maketrans", "partition", "removeprefix",
   "removesuffix", "replace", "rfind", "rindex", "rjust", "rpartition", "rsplit", "rstrip",
   "split", "splitlines", "startswith", "strip", "swapcase", "title", "translate", "upper",
   "zfill"]

/-- The operations of whole numbers. -/
def integerOperations : List String :=
  ["as_integer_ratio", "bit_count", "bit_length", "conjugate", "from_bytes", "to_bytes"]

/-- The operations of doubles. -/
def doubleOperations : List String :=
  ["as_integer_ratio", "conjugate", "fromhex", "hex", "is_integer"]

/-- An operation, if the name is one of them. -/
def operationIn (operations : List String) (name : String) : Value :=
  if operations.contains name then .operation else .json .null

/-- A name looked up in a whole number: its parts as a fraction and as a point of the
plane, and its operations. -/
def integerMember (n : Int) (name : String) : Value :=
  if name = "real" || name = "numerator" then .json (.int n)
  else if name = "imag" then .json (.int 0)
  else if name = "denominator" then .json (.int 1)
  else operationIn integerOperations name

/-- A name looked up in a value. -/
def member (name : String) : Json → Value
  | .obj ms =>
    match Json.Members.get? name ms with
    | some v => .json v
    | none => operationIn objectOperations name
  | .str _ => operationIn textOperations name
  | .int n => integerMember n name
  | .bool b => integerMember (if b then 1 else 0) name
  | .float x =>
    if name = "real" then .json (.float x)
    else if name = "imag" then .json (.float 0.0)
    else operationIn doubleOperations name
  | _ => .json .null

/-- A fact about the place of a scope. -/
def Scope.fact (s : Scope) (f : Position → Json) : Value := .json (s.position.elim .null f)

/-- A name looked up in a scope. -/
def Scope.member (root : Json) (s : Scope) (name : String) : Value :=
  if name = "this" then .json s.here
  else if name = "@root" then .json root
  else if name = "@index" then s.fact fun p => .int p.index
  else if name = "@key" then s.fact fun p => .ofOption p.key
  else if name = "@first" then s.fact fun p => .bool p.isFirst
  else if name = "@last" then s.fact fun p => .bool p.isLast
  else Template.member name s.here

/-- A name looked up in what a path has led to. -/
def Value.member (root : Json) (name : String) : Value → Value
  | .json v => Template.member name v
  | .scope s => s.member root name
  | .operation => .json .null

/-- What is around the thing that a path has led to. -/
def Value.around : Value → Value
  | .scope s => s.around
  | _ => .json .null

/-- Follow a path.  With `facts` the next name is one of the facts about a place. -/
def follow (root : Json) (facts : Bool) (v : Value) : Path → Value
  | [] => v
  | .here :: rest => follow root facts v rest
  | .parent :: rest => follow root facts v.around rest
  | .parentData :: rest => follow root true v.around rest
  | .name written :: rest =>
    let name := (nameOf? written).getD ""
    follow root false (v.member root (if facts then "@" ++ name else name)) rest

/-- The value of a path. -/
def resolve (root : Json) (s : Scope) (p : Path) : Value :=
  if p = [.here] then .json s.here else follow root false (.scope s) p

end Storyline.Template

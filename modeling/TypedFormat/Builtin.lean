/-!
# The built-in placeholders

A template names a built-in placeholder between braces. Each kind is found under one name only, so reading a name back
gives the kind (`Builtin.ofName?_name`). A placeholder expands to a call of the combinator for its kind, whose name is not
always that of the kind.
-/

namespace TypedFormat

/-- The combinators that make a placeholder for one type, and that are called without arguments. -/
inductive Combinator where
  | boolean
  | int
  | float
  | string
  | display
  deriving DecidableEq, Repr

/-- The name of the combinator in code. -/
def Combinator.name : Combinator → String
  | boolean => "boolean"
  | int => "int"
  | float => "float"
  | string => "string"
  | display => "display"

/-- The kinds of placeholder that a template can name. -/
inductive Builtin where
  | bool
  | int
  | float
  | string
  | display
  deriving DecidableEq, Repr

namespace Builtin

/-- The kinds, in the order in which messages list them. -/
def all : List Builtin := [.bool, .int, .float, .string, .display]

/-- The name of the kind in a template. -/
def name : Builtin → String
  | .bool => "bool"
  | .int => "int"
  | .float => "float"
  | .string => "string"
  | .display => "display"

/-- The kind of that name. -/
def ofName? (s : String) : Option Builtin := all.find? fun b => b.name == s

/-- The placeholder of the kind as it is written in a template: its name between braces. -/
def written (b : Builtin) : String := "\x7b" ++ b.name ++ "\x7d"

/-- All kinds as they are written, for messages. -/
def listing : String := ", ".intercalate (all.map written)

/-- The combinator that a placeholder of the kind expands to. -/
def combinator : Builtin → Combinator
  | .bool => .boolean
  | .int => .int
  | .float => .float
  | .string => .string
  | .display => .display

/-- Reading the name of a kind gives that kind. -/
theorem ofName?_name (b : Builtin) : ofName? b.name = some b := by cases b <;> decide

/-- A kind found under a name has that name. -/
theorem name_of_ofName? {s : String} {b : Builtin} (h : ofName? s = some b) : b.name = s := by
  have := List.find?_some h
  simpa using this

end Builtin

end TypedFormat

import TypedFormat.Source.Expression

/-!
# The arguments of a template

A template's arguments are the template itself, a string literal, and after it renderer expressions, each after a
comma. One comma may stand at the end. `Arguments.read` refuses anything else at the first tree that does not fit;
`Arguments.complete` refuses arguments with a tree out of place in one of their groups. How an expression is read is left
open.
-/

namespace TypedFormat.Source

/-- A template literal and the renderers given for it. -/
structure Arguments where
  template : Token
  renderers : List Expression
  deriving DecidableEq, Repr

namespace Arguments

/-- Expressions with a comma between any two; one more comma may follow the last. -/
def expressions (p : Expression.Reader) (ts : List Tree) : Except SyntaxError (List Expression) :=
  match ts with
  | [] => .ok []
  | t :: ts =>
    match _h : p.read (t :: ts) with
    | .error e => .error e
    | .ok (e, []) => .ok [e]
    | .ok (e, u :: rest) =>
      if u.isComma then (expressions p rest).map (e :: ·) else .error (.here (.operator ",") .nowhere (u :: rest))
termination_by ts.length
decreasing_by
  have := (p.rest_suffix _h).length_le
  simp only [List.length_cons] at this ⊢
  omega

/-- The arguments that the trees write. -/
def read (p : Expression.Reader) : List Tree → Except SyntaxError Arguments
  | .leaf t :: ts =>
    if t.kind = .string then
      match ts with
      | [] => .ok ⟨t, []⟩
      | u :: rest =>
        if u.isComma then (expressions p rest).map fun es => ⟨t, es⟩
        else .error (.here (.operator ",") .nowhere (u :: rest))
    else .error (.here (.expected [.stringLiteral]) .nowhere (.leaf t :: ts))
  | ts => .error (.here (.expected [.stringLiteral]) .nowhere ts)

/-- The arguments, if no tree in their groups is out of place. -/
def complete (args : Arguments) : Except SyntaxError Arguments :=
  match args.renderers.findSome? Expression.stray with
  | some stray => .error stray.error
  | none => .ok args

end Arguments

end TypedFormat.Source

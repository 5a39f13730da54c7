import TypedFormat.Source.Grammar.Pattern

/-!
# Operators

What stands between operands. Operators that bind more tightly go first. A range is no operand of another operator, and
a comparison is no operand of another comparison.
-/

namespace TypedFormat.Source.Grammar

open TypedFormat.Source.Parser

/-! ## Precedence -/

/-- The operators between two operands. An operator stands before those that it starts with. -/
def binaryOperators : List (String × Precedence) :=
  [("+=", .assign), ("-=", .assign), ("*=", .assign), ("/=", .assign), ("%=", .assign), ("^=", .assign),
    ("&=", .assign), ("|=", .assign), ("<<=", .assign), (">>=", .assign), ("&&", .and), ("||", .or), ("<<", .shift),
    (">>", .shift), ("==", .compare), ("<=", .compare), ("!=", .compare), (">=", .compare), ("+", .sum), ("-", .sum),
    ("*", .product), ("/", .product), ("%", .product), ("^", .bitXor), ("&", .bitAnd), ("|", .bitOr),
    ("<", .compare), (">", .compare)]

/-- The operator ahead that stands between two operands. -/
def binaryAhead? (a : Ahead) : Option (String × Precedence) := binaryOperators.find? fun (text, _) => a.sign text

/-- An assignment is ahead. -/
def assignmentAhead (a : Ahead) : Bool := a.sign "=" && !a.sign "=>"

/-- How tightly what is ahead binds the operand before it. -/
def precedenceAhead (a : Ahead) : Precedence :=
  match binaryAhead? a with
  | some (_, p) => p
  | none =>
    if assignmentAhead a then .assign
    else if a.sign ".." then .range
    else if a.word "as" then .cast
    else .jump

/-! ## Right operands -/

/-- The operand on the right of an operator, with the operators that bind it more tightly. Assignments are read from
the right. -/
def rightOperand (g : Grammar) (structs : Bool) (p : Precedence) : Parser Unit := do
  let shape ← g.unary structs
  loop shape fun shape => do
    let next := precedenceAhead (← ahead)
    if p.rank < next.rank || (next == p && p == .assign) then
      let (shape, trees) ← withTrees (g.operators shape structs next)
      if trees.isEmpty then pure (.inr ()) else pure (.inl shape)
    else pure (.inr ())

/-- A range ends after its limits when one of these operators is next. -/
def rangeStops : List String :=
  [";", "?", "=>", "=", "+", "/", "%", "^", ">", "<=", "!=", "-=", "*=", "&=", "|=", "<<="]

/-- A half-open range has no end before what is ahead. -/
def rangeStopsAhead (structs : Bool) (a : Ahead) : Bool :=
  a.isEmpty || rangeStops.any a.sign || (a.sign "." && !a.sign "..") || (!structs && a.group .brace) || a.word "as"

/-- The limits and the end of a range. Gives where the limits stand. -/
def rangeTail (g : Grammar) (structs : Bool) : Parser Span := do
  let (closed, span) ← rangeLimits false
  if closed || !rangeStopsAhead structs (← ahead) then g.rightOperand structs .range
  pure span

/-! ## Casts -/

/-- What is ahead would take the whole cast before it for its operand. -/
def afterCast? (a : Ahead) : Option String :=
  if a.sign "." && !a.sign ".." then
    let member := a.skip
    if member.word "await" then some "`.await`"
    else if member.identifier && (member.skip.group .parenthesis || member.skip.sign "::") then some "a method call"
    else some "a field access"
  else if a.sign "?" then some "`?`"
  else if a.group .bracket then some "indexing"
  else if a.group .parenthesis then some "a function call"
  else none

/-- The type that an operand is cast to. -/
def castTarget (g : Grammar) : Parser Unit := do
  keyword "as"
  let _ ← g.type false
  match afterCast? (← ahead) with
  | some what => fail (.afterCast what)
  | none => pure ()

/-! ## Operators -/

/-- The operators after an operand that bind at least as tightly as `base`. -/
def anyOperators (g : Grammar) (lhs : Shape) (structs : Bool) (base : Precedence) : Parser Shape :=
  loop lhs fun shape => do
    let a ← ahead
    match shape, binaryAhead? a with
    | .range _, _ => pure (.inr shape)
    | _, some (text, p) =>
      if p.rank < base.rank then pure (.inr shape)
      else if p == .compare && shape == .comparison then fail .chainedComparison
      else
        operator text
        g.rightOperand structs p
        pure (.inl (if p == .compare then .comparison else .other))
    | _, none =>
      if base.rank ≤ Precedence.assign.rank && assignmentAhead a then
        operator "="
        g.rightOperand structs .assign
        pure (.inl .other)
      else if base.rank ≤ Precedence.range.rank && a.sign ".." then
        let _ ← g.rangeTail structs
        pure (.inl (.range none))
      else if a.word "as" then
        g.castTarget
        pure (.inl .other)
      else pure (.inr shape)

end TypedFormat.Source.Grammar

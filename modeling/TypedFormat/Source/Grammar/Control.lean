import TypedFormat.Source.Grammar.Operator
import TypedFormat.Source.Grammar.Type

/-!
# Control

The expressions that steer what is done: jumps, closures, conditions, loops and `match`.
-/

namespace TypedFormat.Source.Grammar

open TypedFormat.Source.Parser

/-- An expression can start with what is ahead. -/
def expressionAhead (a : Ahead) : Bool :=
  (a.anyWord && !a.word "as") || a.anyGroup || a.literal || (a.sign "!" && !a.sign "!=") ||
    (a.sign "-" && !a.sign "-=" && !a.sign "->") || (a.sign "*" && !a.sign "*=") || (a.sign "|" && !a.sign "|=") ||
    (a.sign "&" && !a.sign "&=") || a.sign ".." || (a.sign "<" && !a.sign "<=" && !a.sign "<<=") || a.sign "::" ||
    a.lifetime || a.sign "#"

/-! ## Jumps -/

/-- The value that a jump takes along, if an expression is next. -/
def jumpValue (g : Grammar) : Parser Unit := do
  if expressionAhead (← ahead) then
    let _ ← g.expression true

/-- A `break`, with the label of what it leaves and a value. A loop with a label cannot be the value. -/
def breakExpression (g : Grammar) (structs : Bool) : Parser Shape := do
  keyword "break"
  let a ← ahead
  if a.lifetime && a.skip.sign ":" then
    let (_, trees) ← withTrees (g.expression true)
    failAt .parenthesesRequired ((Tree.spanOf trees).getD .nowhere)
  else
    if a.lifetime then
      let _ ← lifetime
    let a ← ahead
    if structs || !a.group .brace then g.jumpValue
    pure .other

/-- A `continue`, with the label of its loop. -/
def continueExpression : Parser Shape := do
  keyword "continue"
  if (← ahead).lifetime then
    let _ ← lifetime
  pure .other

/-- A `return` or `yield` with its value. -/
def returnExpression (g : Grammar) : Parser Shape := do
  anyWord
  g.jumpValue
  pure .other

/-- A call that takes the place of the caller. -/
def becomeExpression (g : Grammar) : Parser Shape :=
  asWrittenIf (fun _ => true) do
    keyword "become"
    let _ ← g.expression true
    pure .verbatim

/-! ## Closures -/

/-- A binder is ahead that does not start a loop over what a qualified path gives. -/
def binderAhead (a : Ahead) : Bool :=
  a.word "for" && a.skip.sign "<" && (a.skip.skip.lifetime || a.skip.skip.sign ">")

/-- A closure is ahead. -/
def closureAhead (a : Ahead) : Bool :=
  a.sign "|" || a.word "move" || binderAhead a || (a.word "const" && !a.skip.group .brace) || a.word "static" ||
    (a.word "async" && (a.skip.sign "|" || a.skip.word "move"))

/-- A parameter of a closure: a pattern, perhaps with its type. The attributes of a pattern that is written as it
stands in the source are left out. -/
def closureParameter (g : Grammar) : Parser Unit := do
  let ((), attributes) ← captured g.attributes
  let (shape, pattern) ← captured g.pattern
  let typed := (← ahead).sign ":"
  if typed || shape != .verbatim then writePieces attributes
  writePieces pattern
  if typed then
    operator ":"
    let _ ← g.type true

/-- The parameters of a closure up to the bar after them. -/
def closureParameters (g : Grammar) : Parser Unit :=
  loop () fun () => do
    if (← ahead).sign "|" then pure (.inr ())
    else
      g.closureParameter
      if (← ahead).sign "|" then pure (.inr ())
      else
        operator ","
        pure (.inl ())

/-- A closure. Where the type of its value is given, a block gives the value. -/
def closure (g : Grammar) (structs : Bool) : Parser Shape := do
  if (← ahead).word "for" then g.binder
  let _ ← keyword? "const"
  let _ ← keyword? "static"
  let _ ← keyword? "async"
  let _ ← keyword? "move"
  operator "|"
  g.closureParameters
  operator "|"
  if ← operator? "->" then
    let _ ← g.type true
    g.block
  else
    let _ ← g.expression structs
  pure .other

/-! ## Conditions -/

/-- A pattern with the expression that it is matched against. -/
def letExpression (g : Grammar) (structs : Bool) : Parser Shape := do
  keyword "let"
  let _ ← g.alternatives
  operator "="
  let shape ← g.unary structs
  let _ ← g.operators shape structs .compare
  pure .other

/-- A condition with its branches. -/
def ifExpression (g : Grammar) : Parser Shape :=
  loop () fun () => do
    keyword "if"
    let _ ← g.expression false
    g.block
    if ← keyword? "else" then
      let a ← ahead
      if a.word "if" then pure (.inl ())
      else if a.group .brace then
        g.block
        pure (.inr .block)
      else fail (.expected [.sign "if", .group .brace])
    else pure (.inr .block)

/-! ## Loops and blocks -/

/-- A loop over what an expression gives. -/
def forLoop (g : Grammar) : Parser Shape := do
  keyword "for"
  let _ ← g.alternatives
  keyword "in"
  let _ ← g.expression false
  g.blockWithAttributes
  pure .block

/-- A loop under a condition. -/
def whileLoop (g : Grammar) : Parser Shape := do
  keyword "while"
  let _ ← g.expression false
  g.blockWithAttributes
  pure .block

/-- A loop without a condition, or a block of another sort, after its keyword. -/
def markedBlock (g : Grammar) : Parser Shape := do
  anyWord
  g.blockWithAttributes
  pure .block

/-- A loop or a block with a label. -/
def labelled (g : Grammar) : Parser Shape := do
  let _ ← lifetime
  operator ":"
  let a ← ahead
  if a.word "while" then g.whileLoop
  else if a.word "for" then g.forLoop
  else if a.word "loop" then g.markedBlock
  else if a.group .brace then
    g.blockWithAttributes
    pure .block
  else fail .labelled

/-- A block that is run later. -/
def asyncBlock (g : Grammar) : Parser Shape := do
  keyword "async"
  let _ ← keyword? "move"
  g.block
  pure .other

/-- A block that an error leaves. -/
def tryBlock (g : Grammar) : Parser Shape := do
  keyword "try"
  g.block
  pure .block

/-! ## Matches -/

/-- An arm of a `match`. A comma follows it unless it is the last one or a block ends it. -/
def arm (g : Grammar) : Content Unit := do
  g.attributes
  let _ ← g.alternatives
  if ← keyword? "if" then
    let _ ← g.expression true
  operator "=>"
  let shape ← g.standalone
  if shape != .block && !(← Content.atEnd) then operator ","
  else
    let _ ← Content.comma?

/-- A `match` with its arms. -/
def matchExpression (g : Grammar) : Parser Shape := do
  keyword "match"
  let _ ← g.expression false
  group .brace do
    g.innerAttributes
    Content.many g.arm
  pure .block

end TypedFormat.Source.Grammar

import TypedFormat.Source.Grammar.Item
import TypedFormat.Source.Grammar.Operand

/-!
# Statements

A block holds statements: declarations, variables, macros and expressions. A semicolon ends a statement; a block that
stands first in an expression ends it as well, unless a member or a question mark follows.
-/

namespace TypedFormat.Source.Grammar

open TypedFormat.Source.Parser

/-! ## Expressions -/

/-- A member of what is before it is ahead, or a question mark. -/
def continuationAhead (a : Ahead) : Bool := (a.sign "." && !a.sign "..") || a.sign "?"

/-- A block, a loop or a condition is ahead that ends its statement. -/
def blockAhead (a : Ahead) : Bool :=
  a.wordIn ["if", "while", "loop", "match", "unsafe"] || (a.word "for" && !binderAhead a) ||
    (a.wordIn ["try", "const"] && a.skip.group .brace) || a.group .brace || a.lifetime

/-- An expression after its attributes that a block ends, if it starts with one. The attributes are left out before an
operand that is written as it stands in the source. -/
def standaloneAfter (g : Grammar) (attributed : List Piece) : Parser Shape := do
  if blockAhead (← ahead) then
    writePieces attributed
    let shape ← g.atom true
    if continuationAhead (← ahead) then
      let shape ← g.trailers shape
      g.operators shape true .jump
    else pure shape
  else
    let (shape, pieces) ← captured (g.unary true)
    if shape != .verbatim then writePieces attributed
    writePieces pieces
    g.operators shape true .jump

/-- An expression that a block ends, if it starts with one. -/
def standaloneExpression (g : Grammar) : Parser Shape := do
  let ((), attributed) ← captured g.attributes
  g.standaloneAfter attributed

/-! ## Variables -/

/-- A variable with its value. A block after `else` leaves where the value does not match; it may not follow a brace.
-/
def variableStatement (g : Grammar) : Parser Unit := do
  keyword "let"
  let _ ← g.pattern
  if ← operator? ":" then
    let _ ← g.type true
  if ← operator? "=" then
    let (_, trees) ← withTrees (g.expression true)
    if !(trees.getLast?.any fun t => t.isGroup .brace) then
      if ← keyword? "else" then g.block
  operator ";"

/-! ## Statements -/

/-- A declaration is ahead. -/
def itemAhead (a : Ahead) : Bool :=
  let next := a.skip
  let function (a : Ahead) : Bool := a.wordIn ["unsafe", "extern", "fn"]
  a.wordIn ["pub", "extern", "use", "fn", "mod", "type", "struct", "enum", "trait", "impl", "macro"] ||
    (a.word "crate" && !next.sign "::") ||
    (a.word "static" && (next.word "mut" || next.identifier)) ||
    (a.word "const" &&
      !(next.group .brace || next.wordIn ["static", "move"] || next.sign "|" ||
        (next.word "async" && !function next.skip))) ||
    (a.word "unsafe" && !next.group .brace) ||
    (a.word "async" && function next) ||
    (a.word "union" && next.identifier) ||
    (a.word "auto" && next.word "trait") ||
    (a.word "default" && next.wordIn ["unsafe", "impl"])

/-- A macro that is a statement of its own: its input stands in braces. -/
def expansionStatement : Parser Unit := do
  plainPath
  let _ ← expansionInput
  let _ ← operator? ";"

/-- A statement. Gives whether it needs a semicolon before another statement. -/
def statement (g : Grammar) : Content Bool := do
  let (((), attributed), trees) ← withTrees (captured g.attributes)
  let a ← Content.ahead
  let (path?, afterPath) ← Content.peekAfter (Content.attempt plainPath)
  let expands := path?.isSome && afterPath.sign "!"
  let input := afterPath.skip
  if expands && input.group .brace && !continuationAhead input.skip then
    writePieces attributed
    expansionStatement
    pure false
  else if a.word "let" then
    writePieces attributed
    g.variableStatement
    pure false
  else if itemAhead a || (expands && (input.identifier || input.word "try")) then
    afterAttributes attributed trees g.item
    pure false
  else
    let shape ← g.standaloneAfter attributed
    let ended ← operator? ";"
    pure (!ended && shape != .block && shape != .expansion .brace)

/-- The statements of a block. -/
def blockStatements (g : Grammar) : Content Unit :=
  Content.loop () fun () => do
    whileAhead (fun a => a.sign ";") (operator ";")
    if ← Content.atEnd then pure (.inr ())
    else
      let unfinished ← g.statement
      if ← Content.atEnd then pure (.inr ())
      else if unfinished then Content.fail .statementEnd
      else pure (.inl ())

end TypedFormat.Source.Grammar

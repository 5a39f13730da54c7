import TypedFormat.Source.Grammar.Attribute

/-!
# Paths

A path is a sequence of segments with colons between them; it can start with a type in angle brackets. A segment can
have arguments. In an expression, colons stand before the arguments, since `<` alone compares there.
-/

namespace TypedFormat.Source.Grammar

open TypedFormat.Source.Parser

/-- A segment of a path. Gives whether it has arguments. -/
def segment (g : Grammar) (inExpression : Bool) : Parser Bool := do
  let a ← ahead
  if a.wordIn ["super", "self", "crate", "try"] then
    anyWord
    pure false
  else
    if a.word "Self" then anyWord else identifier
    let a ← ahead
    if (!inExpression && a.sign "<" && !a.sign "<=" && !a.sign "<<=") || (a.sign "::" && a.skip.skip.sign "<") then
      g.genericArguments
      pure true
    else pure false

/-- A path that is not qualified. Colons before a parenthesis are not part of it. -/
def path (g : Grammar) (inExpression : Bool) : Parser PathShape := do
  let leading ← operator? "::"
  let arguments ← g.segment inExpression
  loop (⟨false, !arguments, !leading, arguments⟩ : PathShape) fun s => do
    let a ← ahead
    if a.sign "::" && !a.skip.skip.group .parenthesis then
      operator "::"
      let arguments ← g.segment inExpression
      pure (.inl ⟨false, s.plain && !arguments, false, arguments⟩)
    else pure (.inr s)

/-- A path, perhaps qualified. -/
def anyPath (g : Grammar) (inExpression : Bool) : Parser PathShape := do
  if (← ahead).sign "<" then
    operator "<"
    let _ ← g.type true
    if ← keyword? "as" then
      let _ ← g.path false
    operator ">"
    operator "::"
    loop () fun () => do
      let arguments ← g.segment inExpression
      if ← operator? "::" then pure (.inl ()) else pure (.inr ⟨true, false, false, arguments⟩)
  else g.path inExpression

/-- The exclamation mark and the input of a macro are ahead of a path of this shape. -/
def expandsAhead (p : PathShape) (a : Ahead) : Bool := !p.qualified && p.plain && a.sign "!" && !a.sign "!="

/-- The exclamation mark and the input of a macro. -/
def expansionInput : Parser Delimiter := do
  operator "!"
  rawGroup

end TypedFormat.Source.Grammar

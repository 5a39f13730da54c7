import TypedFormat.Source.Grammar.Control

/-!
# Operands

An operand is an atom with signs before it and with calls, members and indices after it. An atom is a literal, a path,
a group or one of the expressions that steer what is done.
-/

namespace TypedFormat.Source.Grammar

open TypedFormat.Source.Parser

/-! ## Groups -/

/-- A field of a struct with its value. A name stands for the variable of that name where no value follows. -/
def fieldValue (g : Grammar) : Parser Unit := do
  g.attributes
  let named ← member
  if !named || (← ahead).sign ":" then
    operator ":"
    let _ ← g.expression true

/-- The fields of a struct. What two dots start gives the fields that are not listed. -/
def fieldValues (g : Grammar) : Content Unit :=
  Content.loop () fun () => do
    if ← Content.atEnd then pure (.inr ())
    else if (← Content.ahead).sign ".." then
      operator ".."
      if !(← Content.atEnd) then
        let _ ← g.expression true
      pure (.inr ())
    else
      g.fieldValue
      if ← Content.atEnd then pure (.inr ())
      else
        operator ","
        pure (.inl ())

/-- The elements of an array: a list of them, or one and how often it stands there. -/
def elements (g : Grammar) : Content Unit := do
  if !(← Content.atEnd) then
    let _ ← g.expression true
    let a ← Content.ahead
    if a.isEmpty then pure ()
    else if a.sign "," then
      operator ","
      g.expressions
    else if a.sign ";" then
      operator ";"
      let _ ← g.expression true
    else Content.fail .element

/-! ## Paths -/

/-- A path is ahead. -/
def pathAhead (a : Ahead) : Bool :=
  a.identifier || a.sign "::" || a.sign "<" || a.wordIn pathWords ||
    (a.word "try" && (a.skip.sign "!" || a.skip.sign "::"))

/-- An expression that starts with a path: the path, a macro or the fields of a struct. -/
def operandOfPath (g : Grammar) (structs : Bool) : Parser Shape := do
  let p ← g.anyPath true
  let a ← ahead
  if expandsAhead p a then
    let d ← expansionInput
    pure (.expansion d)
  else if structs && a.group .brace then
    group .brace g.fieldValues
    pure .other
  else pure .other

/-- An expression that only the compiler knows. -/
def builtinExpression : Parser Shape :=
  asWrittenIf (fun _ => true) do
    anyWord
    operator "#"
    identifier
    if (← ahead).group .parenthesis then
      let _ ← rawGroup
      pure .verbatim
    else fail (.expected [.group .parenthesis])

/-! ## Atoms -/

/-- An operand without signs before it and without anything after it. -/
def atom (g : Grammar) (structs : Bool) : Parser Shape := do
  let a ← ahead
  if a.literal then
    literal
    pure .other
  else if a.word "async" && (a.skip.group .brace || (a.skip.word "move" && a.skip.skip.group .brace)) then g.asyncBlock
  else if a.word "try" && a.skip.group .brace then g.tryBlock
  else if closureAhead a then g.closure structs
  else if a.word "builtin" && a.skip.sign "#" then builtinExpression
  else if pathAhead a then g.operandOfPath structs
  else if a.group .parenthesis then
    group .parenthesis g.expressions
    pure .other
  else if a.word "break" then g.breakExpression structs
  else if a.word "continue" then continueExpression
  else if a.wordIn ["return", "yield"] then g.returnExpression
  else if a.word "become" then g.becomeExpression
  else if a.group .bracket then
    group .bracket g.elements
    pure .other
  else if a.word "let" then g.letExpression structs
  else if a.word "if" then g.ifExpression
  else if a.word "while" then g.whileLoop
  else if a.word "for" then g.forLoop
  else if a.wordIn ["loop", "unsafe", "const"] then g.markedBlock
  else if a.word "match" then g.matchExpression
  else if a.group .brace then
    g.blockWithAttributes
    pure .block
  else if a.sign ".." then
    let span ← g.rangeTail structs
    pure (.range (some span))
  else if a.word "_" then
    keyword "_"
    pure .other
  else if a.lifetime then g.labelled
  else fail .expression

/-! ## What follows an atom -/

/-- A name or a place after a point. Generic arguments after a name belong to a call. -/
def selectedMember (g : Grammar) : Parser Unit := do
  let named ← member
  let a ← ahead
  if named && (a.sign "::" || a.group .parenthesis) then
    if a.sign "::" then g.genericArguments
    group .parenthesis g.expressions

/-- What follows a point: a member, several places that are one number in the source, or the wait for a value. -/
def selection (g : Grammar) : Parser Unit := do
  let unfinished ← do
    if fractionAhead (← ahead) then places else pure true
  if unfinished then
    if (← ahead).word "await" then keyword "await"
    else g.selectedMember

/-- The index into a value. -/
def index (g : Grammar) : Content Unit := do
  let _ ← g.expression true

/-- The calls, members, indices and question marks after an atom. -/
def trailers (g : Grammar) (shape : Shape) : Parser Shape :=
  loop shape fun shape => do
    let a ← ahead
    let ranged :=
      match shape with
      | .range _ => true
      | _ => false
    if a.group .parenthesis then
      group .parenthesis g.expressions
      pure (.inl .other)
    else if a.sign "." && !a.sign ".." && !ranged then
      operator "."
      g.selection
      pure (.inl .other)
    else if a.group .bracket then
      group .bracket g.index
      pure (.inl .other)
    else if a.sign "?" && !ranged then
      operator "?"
      pure (.inl .other)
    else pure (.inr shape)

/-! ## Signs -/

/-- A reference, or a pointer that no reference is made for. -/
def reference (g : Grammar) (structs : Bool) : Parser Unit := do
  operator "&"
  let a ← ahead
  let raw := a.word "raw" && (a.skip.word "mut" || a.skip.word "const")
  if raw then anyWord
  let mutable ← keyword? "mut"
  if raw && !mutable then keyword "const"
  let _ ← g.unary structs

/-- An operand with the attributes and signs before it and with all that follows it. -/
def operand (g : Grammar) (structs : Bool) : Parser Shape :=
  asWrittenIf (fun shape => shape == .verbatim) do
    let attributed := (← ahead).sign "#"
    g.attributes
    let a ← ahead
    if a.sign "&" then
      g.reference structs
      pure .other
    else if a.sign "*" || a.sign "!" || a.sign "-" then
      operator (if a.sign "*" then "*" else if a.sign "!" then "!" else "-")
      let _ ← g.unary structs
      pure .other
    else
      match ← g.trailers (← g.atom structs) with
      | .range (some limits) => if attributed then failAt .attributeOnRange limits else pure (.range none)
      | shape => pure shape

end TypedFormat.Source.Grammar

import TypedFormat.Source.Grammar.Control

/-!
# Parts of declarations

Who may use what is declared, the conditions on its types, its fields, and the signature of a function.
-/

namespace TypedFormat.Source.Grammar

open TypedFormat.Source.Parser

/-! ## Visibility -/

/-- The mark of what may be used from outside, if one is next. Parentheses after it are part of it if they hold a
single word for a module, or a path after `in`. Gives whether there is such a mark. -/
def visibility : Content Bool := do
  let a ← Content.ahead
  if a.word "pub" then
    keyword "pub"
    let inside := a.skip.inside
    if a.skip.group .parenthesis then
      if inside.wordIn ["crate", "self", "super"] then
        if inside.skip.isEmpty then group .parenthesis (liftM anyWord : Content Unit)
      else if inside.word "in" then
        group .parenthesis do
          keyword "in"
          plainPath
    pure true
  else pure false

/-! ## Conditions -/

/-- The conditions on types end before what is ahead. -/
def conditionEndsAhead (a : Ahead) : Bool :=
  a.isEmpty || a.group .brace || a.sign "," || a.sign ";" || (a.sign ":" && !a.sign "::") || a.sign "="

/-- Parameters in angle brackets are ahead, and not a qualified path. -/
def parametersAhead (a : Ahead) : Bool :=
  let first := a.skip
  let second := first.skip
  a.sign "<" &&
    (first.sign ">" || first.sign "#" ||
      ((first.lifetime || first.identifier) &&
        (second.sign ">" || second.sign "," || (second.sign ":" && !second.sign "::") || second.sign "=")) ||
      first.word "const")

/-- Constructs with plus signs between them, until the conditions end. -/
def conditionBounds (bound : Parser Unit) : Content Unit :=
  Content.loop () fun () => do
    if conditionEndsAhead (← Content.ahead) then pure (.inr ())
    else
      bound
      if ← operator? "+" then pure (.inl ()) else pure (.inr ())

/-- A condition on a lifetime or on a type. -/
def condition (g : Grammar) : Content Unit := do
  let a ← Content.ahead
  if a.lifetime && a.skip.sign ":" then
    let _ ← lifetime
    operator ":"
    conditionBounds do
      let _ ← lifetime
  else
    if a.word "for" then g.binder
    let _ ← g.type true
    operator ":"
    conditionBounds g.typeBound

/-- The conditions on types after `where`. They are not written if there are none. Gives whether the word is there. -/
def conditions (g : Grammar) : Content Bool := do
  if (← Content.ahead).word "where" then
    silent (keyword "where")
    if parametersAhead (← Content.ahead) then Content.fail .genericsOfWhere
    let (found, pieces) ← Content.captured <| Content.loop false fun found => do
      if conditionEndsAhead (← Content.ahead) then pure (.inr found)
      else
        g.condition
        if ← Content.comma? then pure (.inl true) else pure (.inr true)
    if found then
      write "where"
      writePieces pieces
    pure true
  else pure false

/-- A colon and the bounds on what is declared, up to one of the things that end them. -/
def declaredBounds (g : Grammar) (stops : Ahead → Bool) : Content Bool := do
  if (← Content.ahead).sign ":" then
    silent (operator ":")
    let (found, pieces) ← Content.captured <| Content.loop false fun found => do
      if stops (← Content.ahead) then pure (.inr found)
      else
        g.typeBound
        if stops (← Content.ahead) then pure (.inr true)
        else
          operator "+"
          pure (.inl true)
    if found then
      write ":"
      writePieces pieces
    pure true
  else pure false

/-! ## Fields -/

/-- A field with a name, or with an underscore for a name. Fields of a type without a name stand as in the source. -/
def namedField (g : Grammar) : Content Unit := do
  g.attributes
  let _ ← visibility
  let unnamed := (← Content.ahead).word "_"
  if unnamed then anyWord else identifier
  operator ":"
  let a ← Content.ahead
  if unnamed && (a.word "struct" || (a.word "union" && a.skip.group .brace)) then
    let _ ← asWrittenIf (fun _ => true) do
      anyWord
      group .brace g.fields
  else
    let _ ← g.type true

/-- The named fields of a type. -/
def namedFields (g : Grammar) : Content Unit := Content.terminated g.namedField

/-- Fields without names. -/
def unnamedFields (g : Grammar) : Content Unit :=
  Content.terminated do
    g.attributes
    let _ ← visibility
    let _ ← g.type true

/-! ## Functions -/

/-- What stands before the name of a function is ahead. -/
def signatureAhead (safe : Bool) (a : Ahead) : Bool :=
  let a := (a.skipWord "const").skipWord "async"
  let a := if safe && a.word "safe" then a.skip else a.skipWord "unsafe"
  let a := if a.word "extern" then if a.skip.string then a.skip.skip else a.skip else a
  a.word "fn"

/-- The value that a method is called on. Gives where it stands. -/
def receiver (g : Grammar) : Content Span := do
  let byReference ← operator? "&"
  if byReference && (← Content.ahead).lifetime then
    let _ ← lifetime
  let _ ← keyword? "mut"
  let t ← token (.expected [.sign "self"]) fun t => t.isWord "self"
  if !byReference then
    if ← operator? ":" then
      let _ ← g.type true
  pure t.span

/-- Three dots for any number of arguments. -/
def variadic : Content Unit := do
  operator "..."
  if !(← Content.atEnd) then operator ","

/-- A parameter with its type. A type alone stands for a parameter without a name if it starts with a name and has
arguments. Gives whether any number of arguments may stand for the parameter. -/
def typedParameter (g : Grammar) : Content Bool := do
  let a ← Content.ahead
  if a.identifier && a.skip.sign "<" then
    write "_"
    write ":"
    let _ ← g.type true
    pure false
  else
    let _ ← g.pattern
    operator ":"
    if (← Content.ahead).sign "..." then
      variadic
      pure true
    else
      let _ ← g.type true
      pure false

/-- The parameters of a function. The value that a method is called on stands first. -/
def functionParameters (g : Grammar) : Content Unit :=
  Content.loop (true, false) fun (first, received) => do
    if ← Content.atEnd then pure (.inr ())
    else
      g.attributes
      if (← Content.ahead).sign "..." then
        variadic
        pure (.inr ())
      else
        let (last, received) ←
          match ← Content.attempt g.receiver with
          | some span =>
            if received then failAt .secondReceiver span
            else if !first then failAt .lateReceiver span
            else pure (false, true)
          | none => pure (← g.typedParameter, received)
        if last then pure (.inr ())
        else if ← Content.atEnd then pure (.inr ())
        else
          operator ","
          pure (.inl (false, received))

/-- A function up to its body. Gives whether it is marked as safe. -/
def signature (g : Grammar) (safe : Bool) : Content Bool := do
  let _ ← keyword? "const"
  let _ ← keyword? "async"
  let safe := safe && (← Content.ahead).word "safe"
  if safe then anyWord
  else
    let _ ← keyword? "unsafe"
  convention
  keyword "fn"
  identifier
  let _ ← g.parameters
  group .parenthesis g.functionParameters
  g.returnType true
  let _ ← g.conditions
  pure safe

end TypedFormat.Source.Grammar

import TypedFormat.Source.Grammar.Generics

/-!
# Types

A type is a path, a reference or pointer, a tuple, array or slice, a type of functions, or a list of bounds that stands
for the types that meet them.
-/

namespace TypedFormat.Source.Grammar

open TypedFormat.Source.Parser

/-- How a type can start. -/
def typeStarts : List Expected :=
  [.sign "for", .group .parenthesis, .sign "fn", .sign "unsafe", .sign "extern", .identifier, .sign "::", .sign "<",
    .sign "dyn", .group .bracket, .sign "*", .sign "&", .sign "!", .sign "impl", .sign "_", .lifetime]

/-- What can follow a binder in a type. -/
def boundTypeStarts : List Expected :=
  [.identifier, .sign "fn", .sign "unsafe", .sign "extern", .sign "super", .sign "self", .sign "Self", .sign "crate"]

/-- The name of the library that a function is called through, if one is next. -/
def convention : Parser Unit := do
  if ← keyword? "extern" then
    if (← ahead).string then literal

/-! ## Types of functions -/

/-- An argument of a type of functions. The receiver of a method may stand first, without a type; it is written as it
stands in the source. -/
def functionTypeArgument (g : Grammar) (first : Bool) : Content Bool :=
  Content.asWrittenIf id do
    let a ← Content.ahead
    let mutable := first && a.word "mut" && a.skip.word "self"
    if mutable then keyword "mut"
    let a ← Content.ahead
    let receiver := first && a.word "self"
    let named := (a.identifier || a.word "_" || receiver) && a.skip.sign ":" && !a.skip.sign "::"
    if named then
      anyWord
      operator ":"
    let a ← Content.ahead
    if first && !(named && receiver) && a.word "mut" && a.skip.word "self" then
      keyword "mut"
      keyword "self"
      pure true
    else if mutable && !named then
      keyword "self"
      pure true
    else
      let _ ← g.type true
      pure mutable

/-- The arguments of a type of functions. Three dots may stand last for any number of arguments. -/
def functionTypeArguments (g : Grammar) : Content Unit :=
  Content.loop true fun first => do
    if ← Content.atEnd then pure (.inr ())
    else
      g.attributes
      let a ← Content.ahead
      let named := (a.identifier || a.word "_") && a.skip.sign ":" && a.skip.skip.sign "..."
      if a.sign "..." || named then
        if named then
          anyWord
          operator ":"
        operator "..."
        let _ ← Content.comma?
        pure (.inr ())
      else
        let _ ← g.functionTypeArgument first
        if ← Content.atEnd then pure (.inr ())
        else
          operator ","
          pure (.inl false)

/-- A type of functions. -/
def functionType (g : Grammar) : Parser TypeShape := do
  let _ ← keyword? "unsafe"
  convention
  keyword "fn"
  group .parenthesis g.functionTypeArguments
  g.returnType false
  pure .other

/-! ## Parentheses -/

/-- What stands in the parentheses of a type. -/
inductive Parenthesized where
  | tuple
  /-- A single bound that is relaxed. -/
  | relaxed
  | single (t : TypeShape)
  deriving DecidableEq, Repr

/-- The bounds of a type that stands for others must have a trait among them. -/
def checkObject (start : Span) (shapes : List BoundShape) : Parser Unit := do
  if !shapes.any (fun b => b == .trait) then
    match shapes.getLast? with
    | some (.lifetime span) => failAt .objectWithoutTrait (start.through span)
    | _ => pure ()

/-- The inside of the parentheses of a type. -/
def parenthesizedType (g : Grammar) : Content Parenthesized := do
  let a ← Content.ahead
  if a.isEmpty then pure .tuple
  else if a.sign "?" then
    let _ ← g.traitBound false
    pure .relaxed
  else
    let t ← g.type true
    if a.lifetime then pure (.single .other)
    else if (← Content.ahead).sign "," then
      operator ","
      Content.terminated do
        let _ ← g.type true
      pure .tuple
    else pure (.single t)

/-- A type that starts with a parenthesis: a tuple, a type in parentheses, or bounds of which the first stands in
parentheses. -/
def typeInParentheses (g : Grammar) (plus : Bool) : Parser TypeShape := do
  match ← group .parenthesis g.parenthesizedType with
  | .tuple => pure .other
  | .relaxed =>
    if (← ahead).sign "+" then
      g.moreBounds
      pure .other
    else pure .bound
  | .single .other => pure .other
  | .single _ =>
    if plus && (← ahead).sign "+" then g.moreBounds
    pure .other

/-! ## Other types -/

/-- A type that starts with a path: the path, a macro, or bounds of which the path is the first. -/
def typeOfPath (g : Grammar) (plus bound : Bool) : Parser TypeShape := do
  let p ← g.anyPath false
  let a ← ahead
  if p.qualified then pure .other
  else if expandsAhead p a then
    let _ ← expansionInput
    pure .other
  else if bound || (plus && a.sign "+") then
    if plus then
      loop true fun single => do
        if (← ahead).sign "+" then
          operator "+"
          if boundAhead (← ahead) then
            let _ ← g.bound false false
            pure (.inl false)
          else pure (.inr .other)
        else pure (.inr (if single then .bound else .other))
    else pure .bound
  else pure (.path p.single)

/-- A list of bounds after `dyn`. With a star it is written as it stands in the source. -/
def objectType (g : Grammar) (plus : Bool) : Parser TypeShape := do
  let _ ← asWrittenIf id do
    let t ← token (.expected [.sign "dyn"]) fun t => t.isWord "dyn"
    let star ← operator? "*"
    let shapes ← g.bounds plus false false
    checkObject t.span shapes
    pure star
  pure .other

/-- A list of bounds that starts with a lifetime. -/
def objectOfLifetime (g : Grammar) : Parser TypeShape := do
  let start := ((← ahead).token?.map Token.blamed).getD .nowhere
  let shapes ← g.bounds true false false
  checkObject start shapes
  pure .other

/-- A list of bounds after `impl`. -/
def implementorType (g : Grammar) (plus : Bool) : Parser TypeShape := do
  let t ← token (.expected [.sign "impl"]) fun t => t.isWord "impl"
  let shapes ← g.bounds plus true true
  if !shapes.any (fun b => b == .trait || b == .verbatim) then
    match shapes.getLast? with
    | some (.lifetime span) => failAt .implWithoutTrait (t.span.through span)
    | some (.capture span) => failAt .implWithoutTrait (t.span.through span)
    | _ => pure ()
  pure .other

/-- An array or a slice. -/
def arrayType (g : Grammar) : Content Unit := do
  let _ ← g.type true
  if ← operator? ";" then
    let _ ← g.expression true

/-- A type that does not start with a binder. -/
def typeWithoutBinder (g : Grammar) (plus : Bool) : Parser TypeShape := do
  let a ← ahead
  if a.group .parenthesis then g.typeInParentheses plus
  else if a.wordIn ["fn", "unsafe", "extern"] then g.functionType
  else if a.identifier || a.wordIn pathWords || a.sign "::" || a.sign "<" then g.typeOfPath plus false
  else if a.word "dyn" then g.objectType plus
  else if a.group .bracket then
    group .bracket g.arrayType
    pure .other
  else if a.sign "*" then
    operator "*"
    let a ← ahead
    if a.word "const" || a.word "mut" then anyWord
    else fail (.expected [.sign "const", .sign "mut"])
    let _ ← g.type false
    pure .other
  else if a.sign "&" then
    operator "&"
    if (← ahead).lifetime then
      let _ ← lifetime
    let _ ← keyword? "mut"
    let _ ← g.type false
    pure .other
  else if a.sign "!" then
    operator "!"
    pure .other
  else if a.word "impl" then g.implementorType plus
  else if a.word "_" then
    keyword "_"
    pure .other
  else if a.lifetime then g.objectOfLifetime
  else fail (.expected typeStarts)

/-- A type. -/
def anyType (g : Grammar) (plus : Bool) : Parser TypeShape := do
  if (← ahead).word "for" then
    g.binder
    let a ← ahead
    if a.wordIn ["fn", "unsafe", "extern"] then g.functionType
    else if a.identifier || a.wordIn pathWords then g.typeOfPath plus true
    else fail (.expected boundTypeStarts)
  else g.typeWithoutBinder plus

end TypedFormat.Source.Grammar

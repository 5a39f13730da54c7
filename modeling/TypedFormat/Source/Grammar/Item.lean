import TypedFormat.Source.Grammar.Declaration

/-!
# Declarations

The declarations that a block can hold: functions, constants, imports, modules, types, traits and implementations.
Forms that have no meaning of their own are written as they stand in the source; each rule gives whether it read such a
form.
-/

namespace TypedFormat.Source.Grammar

open TypedFormat.Source.Parser

/-- A declaration, written as it stands in the source if it has no meaning of its own. `attributed` are the attributes
before it as they are written, and `trees` as they stand in the source. -/
def afterAttributes (attributed : List Piece) (trees : List Tree) (declaration : Content Bool) : Content Unit := do
  let (asItStands, pieces) ← Content.captured (Content.asWrittenIf id declaration)
  writePieces (if asItStands then Tree.allPieces trees else attributed)
  writePieces pieces

/-- Declarations with their attributes up to the end. -/
def declarations (g : Grammar) (declaration : Content Bool) : Content Unit :=
  Content.many do
    let (((), attributed), trees) ← withTrees (captured g.attributes)
    afterAttributes attributed trees declaration

/-- Declarations in braces, which may start with attributes. -/
def declarationBlock (g : Grammar) (declaration : Content Bool) : Parser Unit :=
  group .brace do
    g.innerAttributes
    g.declarations declaration

/-- What a declaration could start with, without the words that are ahead. -/
def startsWithout (a : Ahead) (things : List Expected) : List Expected :=
  things.filter fun e =>
    match e with
    | .sign text => !a.word text
    | _ => true

/-- What the path of a macro can start with. -/
def expansionStarts : List Expected := [.identifier, .sign "self", .sign "super", .sign "crate", .sign "::"]

/-- The path of a macro may be ahead. -/
def expansionAhead (a : Ahead) : Bool := a.identifier || a.wordIn ["self", "super", "crate"] || a.sign "::"

/-! ## Macros -/

/-- A macro in the place of a declaration, perhaps with the name that it declares. -/
def expansionItem (named : Bool) : Content Bool := do
  plainPath
  operator "!"
  if named then
    let a ← Content.ahead
    if a.word "try" then anyWord
    else if a.identifier then identifier
  let d ← rawGroup
  if d != .brace then operator ";"
  pure false

/-- A macro that is declared by a body. -/
def bodiedMacro : Content Bool := do
  keyword "macro"
  identifier
  let parameters := (← Content.ahead).group .parenthesis
  if parameters then
    let _ ← rawGroup
  if (← Content.ahead).group .brace then
    let _ ← rawGroup
    pure true
  else Content.fail (.expected (if parameters then [.group .brace] else [.group .parenthesis, .group .brace]))

/-! ## Constants -/

/-- A static variable. -/
def staticItem (g : Grammar) : Content Bool := do
  let _ ← visibility
  keyword "static"
  let _ ← keyword? "mut"
  identifier
  if ← operator? "=" then
    let _ ← g.expression true
    operator ";"
    pure true
  else
    operator ":"
    let _ ← g.type true
    if ← operator? ";" then pure true
    else
      operator "="
      let _ ← g.expression true
      operator ";"
      pure false

/-- A constant. Gives whether it has a value, and whether it has parameters or conditions. -/
def constantItem (g : Grammar) : Content (Bool × Bool) := do
  keyword "const"
  let a ← Content.ahead
  if a.identifier || a.word "_" then anyWord else Content.fail (.expected [.identifier, .sign "_"])
  let general ← g.parameters
  operator ":"
  let _ ← g.type true
  let valued ← operator? "="
  if valued then
    let _ ← g.expression true
  let conditional ← g.conditions
  operator ";"
  pure (valued, general || conditional)

/-! ## Types -/

/-- What was read of a named type: whether a mark says who may use it, and whether it has bounds and a definition. -/
structure NamedType where
  isPublic : Bool
  bounded : Bool
  defined : Bool
  deriving DecidableEq, Repr

/-- A name for a type, with conditions before the definition, after it, or in either place. -/
def namedType (g : Grammar) (defaultable before after : Bool) : Content NamedType := do
  let isPublic ← visibility
  if defaultable then
    let _ ← keyword? "default"
  keyword "type"
  identifier
  let _ ← g.parameters
  let bounded ← g.declaredBounds fun a => a.word "where" || a.sign "=" || a.sign ";"
  let conditional ← if before then g.conditions else pure false
  let defined ← operator? "="
  if defined then
    let _ ← g.type true
  if after && !conditional then
    let _ ← g.conditions
  operator ";"
  pure ⟨isPublic, bounded, defined⟩

/-- A struct. -/
def structItem (g : Grammar) : Content Bool := do
  let _ ← visibility
  keyword "struct"
  identifier
  let _ ← g.parameters
  let conditional ← g.conditions
  let a ← Content.ahead
  if !conditional && a.group .parenthesis then
    group .parenthesis g.unnamedFields
    let conditional ← g.conditions
    if (← Content.ahead).sign ";" then operator ";"
    else Content.fail (.expected (if conditional then [.sign ";"] else [.sign "where", .sign ";"]))
  else if a.group .brace then group .brace g.namedFields
  else if a.sign ";" then operator ";"
  else
    Content.fail <| .expected <|
      if conditional then [.group .brace, .sign ";"]
      else [.sign "where", .group .parenthesis, .group .brace, .sign ";"]
  pure false

/-- A variant of an enumeration. A mark of who may use it is not written. -/
def variant (g : Grammar) : Content Unit := do
  g.attributes
  let _ ← Content.captured visibility
  identifier
  let a ← Content.ahead
  if a.group .brace then group .brace g.namedFields
  else if a.group .parenthesis then group .parenthesis g.unnamedFields
  if ← operator? "=" then
    let _ ← g.expression true

/-- An enumeration. -/
def enumItem (g : Grammar) : Content Bool := do
  let _ ← visibility
  keyword "enum"
  identifier
  let _ ← g.parameters
  let _ ← g.conditions
  group .brace (Content.terminated g.variant)
  pure false

/-- A union. -/
def unionItem (g : Grammar) : Content Bool := do
  let _ ← visibility
  anyWord
  identifier
  let _ ← g.parameters
  let _ ← g.conditions
  group .brace g.namedFields
  pure false

/-! ## Imports and modules -/

/-- A library that is linked, perhaps by another name. -/
def libraryItem : Content Bool := do
  let _ ← visibility
  keyword "extern"
  keyword "crate"
  if (← Content.ahead).word "self" then anyWord else identifier
  if ← keyword? "as" then
    if (← Content.ahead).word "_" then anyWord else identifier
  operator ";"
  pure false

/-- How the tree of an import can start. -/
def importStarts : List Expected :=
  [.identifier, .sign "self", .sign "super", .sign "crate", .sign "try", .sign "*", .group .brace]

/-- The tree of an import. Gives whether some branch starts with colons, which is only allowed where `root` holds. -/
def importTree (g : Grammar) (root : Bool) : Content Bool := do
  let a ← Content.ahead
  if a.identifier || a.wordIn ["self", "super", "crate", "try"] then
    anyWord
    if ← operator? "::" then g.useTree false
    else
      if ← keyword? "as" then
        let a ← Content.ahead
        if a.identifier || a.word "_" then anyWord else Content.fail .useName
      pure false
  else if a.sign "*" then
    operator "*"
    pure false
  else if a.group .brace then
    group .brace <| Content.loop false fun found => do
      if ← Content.atEnd then pure (.inr found)
      else
        let colons ← if root then operator? "::" else pure false
        let below ← g.useTree (root && !colons)
        let found := found || colons || below
        if ← Content.atEnd then pure (.inr found)
        else
          operator ","
          pure (.inl found)
  else Content.fail (.expected importStarts)

/-- An import. -/
def importItem (g : Grammar) : Content Bool := do
  let _ ← visibility
  keyword "use"
  let colons ← operator? "::"
  let asItStands ← g.useTree !colons
  operator ";"
  pure asItStands

/-- A module. -/
def moduleItem (g : Grammar) : Content Bool := do
  let _ ← visibility
  let _ ← keyword? "unsafe"
  keyword "mod"
  if (← Content.ahead).word "try" then anyWord else identifier
  let a ← Content.ahead
  if a.sign ";" then operator ";"
  else if a.group .brace then g.declarationBlock g.item
  else Content.fail (.expected [.sign ";", .group .brace])
  pure false

/-! ## What other libraries declare -/

/-- A declaration of something that another library defines. -/
def foreignItem (g : Grammar) : Content Bool := do
  let (isPublic, a) ← Content.peekAfter visibility
  if signatureAhead true a then
    let _ ← visibility
    let safe ← g.signature true
    let bodied := (← Content.ahead).group .brace
    if bodied then g.blockWithAttributes else operator ";"
    pure (safe || bodied)
  else if a.word "static" || (a.wordIn ["unsafe", "safe"] && a.skip.word "static") then
    let _ ← visibility
    let marked := !a.word "static"
    if marked then anyWord
    keyword "static"
    let _ ← keyword? "mut"
    identifier
    operator ":"
    let _ ← g.type true
    let valued ← operator? "="
    if valued then
      let _ ← g.expression true
    operator ";"
    pure (marked || valued)
  else if a.word "type" then
    let t ← g.namedType false true true
    pure (t.bounded || t.defined)
  else if !isPublic && expansionAhead a then expansionItem false
  else
    let starts : List Expected := [.sign "fn", .sign "static", .sign "type"]
    Content.failAhead (.expected (if isPublic then starts else starts ++ expansionStarts)) a

/-- A block of declarations of what another library defines. -/
def foreignBlock (g : Grammar) : Content Bool := do
  let _ ← keyword? "unsafe"
  if !(← Content.ahead).word "extern" then Content.fail (.expected [.sign "extern"])
  convention
  g.declarationBlock g.foreignItem
  pure false

/-! ## Traits -/

/-- A declaration in a trait. -/
def traitItem (g : Grammar) : Content Bool := do
  let start : Content Bool := do
    let isPublic ← visibility
    let isDefault ← keyword? "default"
    pure (isPublic || isDefault)
  let (marked, a) ← Content.peekAfter start
  if signatureAhead false a || (a.word "const" && a.skip.wordIn ["async", "unsafe", "extern", "fn"]) then
    let _ ← start
    let _ ← g.signature false
    let a ← Content.ahead
    if a.group .brace then g.blockWithAttributes
    else if a.sign ";" then operator ";"
    else Content.fail (.expected [.group .brace, .sign ";"])
    pure marked
  else if a.word "const" then
    let name := a.skip
    if !(name.identifier || name.word "_") then
      Content.failAhead
        (.expected [.identifier, .sign "_", .sign "async", .sign "unsafe", .sign "extern", .sign "fn"]) name
    let _ ← start
    let (_, general) ← g.constantItem
    pure (marked || general)
  else if a.word "type" then
    let _ ← start
    let t ← g.namedType false false true
    pure (marked || t.isPublic)
  else if !marked && expansionAhead a then expansionItem false
  else
    let starts : List Expected := [.sign "fn", .sign "const", .sign "type"]
    Content.failAhead (.expected (if marked then starts else starts ++ expansionStarts)) a

/-- A trait after its parameters. -/
def traitBody (g : Grammar) : Content Bool := do
  let _ ← g.declaredBounds fun a => a.word "where" || a.group .brace
  let _ ← g.conditions
  g.declarationBlock g.traitItem
  pure false

/-- A trait that is unsafe or holds of its own. -/
def markedTrait (g : Grammar) : Content Bool := do
  let _ ← visibility
  let _ ← keyword? "unsafe"
  let _ ← keyword? "auto"
  keyword "trait"
  identifier
  let _ ← g.parameters
  g.traitBody

/-- A trait, or a name for several bounds. -/
def traitOrBounds (g : Grammar) : Content Bool := do
  let _ ← visibility
  keyword "trait"
  identifier
  let _ ← g.parameters
  let a ← Content.ahead
  if a.group .brace || a.sign ":" || a.word "where" then g.traitBody
  else if a.sign "=" then
    operator "="
    let stops (a : Ahead) : Bool := a.word "where" || a.sign ";"
    Content.loop () fun () => do
      if stops (← Content.ahead) then pure (.inr ())
      else
        g.typeBound
        if stops (← Content.ahead) then pure (.inr ())
        else
          operator "+"
          pure (.inl ())
    let _ ← g.conditions
    operator ";"
    pure false
  else Content.fail (.expected [.group .brace, .sign ":", .sign "where", .sign "="])

/-! ## Implementations -/

/-- A declaration in an implementation. -/
def implementationItem (g : Grammar) : Content Bool := do
  let (isPublic, a) ← Content.peekAfter visibility
  let isDefault := a.word "default" && !a.skip.sign "!"
  let a := if isDefault then a.skip else a
  let start : Content Unit := do
    let _ ← visibility
    if isDefault then anyWord
  if signatureAhead false a then
    start
    let _ ← g.signature false
    if ← operator? ";" then pure true
    else
      g.blockWithAttributes
      pure false
  else if a.word "const" then
    start
    let (valued, general) ← g.constantItem
    pure (!valued || general)
  else if a.word "type" then
    let t ← g.namedType true false true
    pure (t.bounded || !t.defined)
  else if !isPublic && !isDefault && expansionAhead a then expansionItem false
  else
    let starts : List Expected := [.sign "fn", .sign "const", .sign "type"]
    let starts := if isDefault || a.word "default" then starts else .sign "default" :: starts
    Content.failAhead (.expected (if isPublic || isDefault then starts else starts ++ expansionStarts)) a

/-- An implementation, of a trait or of a type's own functions. -/
def implementation (g : Grammar) : Content Bool := do
  let isPublic ← visibility
  let _ ← keyword? "default"
  let _ ← keyword? "unsafe"
  keyword "impl"
  if parametersAhead (← Content.ahead) then
    let _ ← g.parameters
  let a ← Content.ahead
  let constant := a.word "const" || (a.sign "?" && a.skip.word "const")
  if constant then
    let _ ← operator? "?"
    keyword "const"
  let a ← Content.ahead
  let negative := a.sign "!" && !a.skip.group .brace
  let ((), mark) ← withTrees (if negative then operator "!" else pure ())
  let shape ← g.type true
  let ofTrait ← keyword? "for"
  if ofTrait then
    let _ ← g.type true
  else if negative then failAt .negativeInherent ((Tree.spanOf mark).getD .nowhere)
  let _ ← g.conditions
  g.declarationBlock g.implementationItem
  let isPath :=
    match shape with
    | .path _ => true
    | _ => false
  pure (isPublic || constant || (ofTrait && !isPath))

/-! ## Declarations -/

/-- What a declaration can start with. -/
def itemStarts : List Expected :=
  [.sign "fn", .sign "extern", .sign "use", .sign "static", .sign "const", .sign "unsafe", .sign "mod", .sign "type",
    .sign "struct", .sign "enum", .sign "union", .sign "trait", .sign "auto", .sign "impl", .sign "default",
    .sign "macro"]

/-- A declaration that starts with `extern` and is no function. -/
def externItem (g : Grammar) (a : Ahead) : Content Bool := do
  let next := a.skip
  if next.word "crate" then libraryItem
  else if next.group .brace then g.foreignBlock
  else if next.string then
    if next.skip.group .brace then g.foreignBlock else Content.failAhead (.expected [.group .brace]) next.skip
  else Content.failAhead (.expected [.sign "crate", .group .brace, .stringLiteral]) next

/-- A declaration that starts with `unsafe` and is no function. -/
def unsafeItem (g : Grammar) (a : Ahead) : Content Bool := do
  let next := a.skip
  if next.word "trait" || (next.word "auto" && next.skip.word "trait") then g.markedTrait
  else if next.word "impl" then g.implementation
  else if next.word "extern" then g.foreignBlock
  else if next.word "mod" then g.moduleItem
  else
    let starts : List Expected := [.sign "trait", .sign "auto", .sign "impl", .sign "extern", .sign "mod"]
    Content.failAhead (.expected (startsWithout next starts)) next

/-- A declaration after its attributes. -/
def anyItem (g : Grammar) : Content Bool := do
  let (isPublic, a) ← Content.peekAfter visibility
  if signatureAhead false a then
    let _ ← visibility
    let _ ← g.signature false
    if ← operator? ";" then pure true
    else
      g.blockWithAttributes
      pure false
  else if a.word "extern" then g.externItem a
  else if a.word "use" then g.importItem
  else if a.word "static" then g.staticItem
  else if a.word "const" then
    let _ ← visibility
    let (valued, general) ← g.constantItem
    pure (!valued || general)
  else if a.word "unsafe" then g.unsafeItem a
  else if a.word "mod" then g.moduleItem
  else if a.word "type" then
    let t ← g.namedType false true false
    pure (t.bounded || !t.defined)
  else if a.word "struct" then g.structItem
  else if a.word "enum" then g.enumItem
  else if a.word "union" && a.skip.identifier then g.unionItem
  else if a.word "trait" then g.traitOrBounds
  else if a.word "auto" && a.skip.word "trait" then g.markedTrait
  else if a.word "impl" || (a.word "default" && !a.skip.sign "!") then g.implementation
  else if a.word "macro" then
    let _ ← visibility
    bodiedMacro
  else if !isPublic && expansionAhead a then expansionItem true
  else
    let starts := startsWithout a itemStarts
    Content.failAhead (.expected (if isPublic then starts else starts ++ expansionStarts)) a

end TypedFormat.Source.Grammar

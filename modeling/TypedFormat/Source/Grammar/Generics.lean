import TypedFormat.Source.Grammar.Path

/-!
# Generics

Arguments and parameters in angle brackets, and the bounds on types. Lifetimes are written before the other arguments,
wherever they stand in the source. A colon without a bound after it is not written.
-/

namespace TypedFormat.Source.Grammar

open TypedFormat.Source.Parser

/-- An entry of a list in angle brackets, as it is written, and whether a comma follows it. -/
structure Entry where
  isLifetime : Bool
  pieces : List Piece
  comma : Bool
  deriving Repr

namespace Entry

/-- The entry with its comma. -/
def all (e : Entry) : List Piece := e.pieces ++ if e.comma then [⟨",", false⟩] else []

/-- The entries with the lifetimes first. -/
def lifetimesFirst (es : List Entry) : List Piece :=
  let lifetimes := es.filter isLifetime
  let others := es.filter fun e => !e.isLifetime
  let separated := lifetimes.getLast?.all comma || others.isEmpty
  lifetimes.flatMap all ++ (if separated then [] else [⟨",", false⟩]) ++ others.flatMap all

end Entry

/-- What an entry is, and the fault where the input ends after it. -/
structure EntryKind where
  isLifetime : Bool := false
  missing : SyntaxFault := .operator ","
  deriving DecidableEq, Repr

/-- Entries with commas between them up to a closing angle bracket, which is not read. -/
def entries (entry : Parser EntryKind) : Parser (List Entry) :=
  loop [] fun es => do
    if (← ahead).sign ">" then pure (.inr es)
    else
      let (kind, pieces) ← captured entry
      if (← ahead).sign ">" then pure (.inr (es ++ [⟨kind.isLifetime, pieces, false⟩]))
      else
        silent (comma kind.missing)
        pure (.inl (es ++ [⟨kind.isLifetime, pieces, true⟩]))

/-! ## Bounds -/

/-- Bounds with plus signs between them, until `stops` holds or a comma is next. `missing` is what is expected where
the input ends before. Gives whether there are any, and the fault where the input ends here. -/
def boundsUntil (bound : Parser Unit) (missing : Expected) (stops : Ahead → Bool) : Parser (Bool × SyntaxFault) :=
  loop false fun found => do
    let a ← ahead
    if stops a then pure (.inr (found, .operator ","))
    else if a.isEmpty then pure (.inr (found, .expected [missing]))
    else
      bound
      if ← operator? "+" then pure (.inl true) else pure (.inr (true, .operator ","))

/-- A colon and bounds, if a colon is next. Gives the fault where the input ends here. -/
def optionalBounds (bound : Parser Unit) (missing : Expected) (stops : Ahead → Bool) : Parser SyntaxFault := do
  if (← ahead).sign ":" then
    silent (operator ":")
    let ((found, fault), pieces) ← captured (boundsUntil bound missing stops)
    if found then
      write ":"
      writePieces pieces
    pure fault
  else pure (.operator ",")

/-- A bound of a type that captures nothing. -/
def typeBound (g : Grammar) : Parser Unit := do
  let _ ← g.bound false true

/-- A bound can start here. -/
def boundAhead (a : Ahead) : Bool :=
  a.anyWord || a.sign "::" || a.sign "?" || a.lifetime || a.group .parenthesis

/-- One or more bounds. A plus sign may stand at the end. -/
def bounds (g : Grammar) (plus captures constants : Bool) : Parser (List BoundShape) :=
  loop [] fun shapes => do
    let shape ← g.bound captures constants
    let shapes := shapes ++ [shape]
    if plus && (← ahead).sign "+" then
      operator "+"
      let a ← ahead
      if boundAhead a || (constants && (a.group .bracket || a.word "const")) then pure (.inl shapes)
      else pure (.inr shapes)
    else pure (.inr shapes)

/-- The bounds after a plus sign, as long as one is next. -/
def moreBounds (g : Grammar) : Parser Unit :=
  whileAhead (fun a => a.sign "+") do
    operator "+"
    let _ ← g.bound false false

/-! ## Parameters -/

/-- A constant as an argument: a literal, a name or a block. -/
def constantArgument (g : Grammar) : Parser Unit := do
  let a ← ahead
  if a.literal then literal
  else if a.identifier then identifier
  else if a.group .brace then g.blockWithAttributes
  else fail (.expected [])

/-- A parameter: a lifetime, a type or a constant. -/
def parameter (g : Grammar) (expected : List Expected) (blank : Bool) : Parser EntryKind := do
  g.attributes
  let a ← ahead
  if a.lifetime then
    let _ ← lifetime
    let bound : Parser Unit := do
      let _ ← lifetime
    let missing ← optionalBounds bound .lifetime fun a => a.sign ">"
    pure ⟨true, missing⟩
  else if a.identifier then
    identifier
    let missing ← optionalBounds g.typeBound .identifier fun a => a.sign ">" || a.sign "="
    if ← operator? "=" then
      let _ ← g.type true
      pure {}
    else pure ⟨false, missing⟩
  else if a.word "const" then
    keyword "const"
    identifier
    operator ":"
    let _ ← g.type true
    if ← operator? "=" then g.constantArgument
    pure {}
  else if blank && a.word "_" then
    anyWord
    pure {}
  else fail (.expected expected)

/-- The lifetimes that a type, a bound or a closure is general in. -/
def binder (g : Grammar) : Parser Unit := do
  keyword "for"
  operator "<"
  loop () fun () => do
    if (← ahead).sign ">" then pure (.inr ())
    else
      let kind ← g.parameter [.identifier, .lifetime, .sign "const"] false
      if (← ahead).sign ">" then pure (.inr ())
      else
        comma kind.missing
        pure (.inl ())
  operator ">"

/-- The parameters of a declaration, if there are any. Empty brackets are not written. Gives whether there are
brackets. -/
def parameters (g : Grammar) : Parser Bool := do
  if (← ahead).sign "<" then
    silent (operator "<")
    let es ← entries (g.parameter [.lifetime, .identifier, .sign "const"] true)
    silent (operator ">")
    if !es.isEmpty then
      write "<"
      writePieces (Entry.lifetimesFirst es)
      write ">"
    pure true
  else pure false

/-! ## Arguments -/

/-- An argument: a lifetime, a type, a constant, or what an associated type or constant is or is bounded by. -/
def genericArgument (g : Grammar) : Parser EntryKind := do
  let a ← ahead
  if a.lifetime && !a.skip.sign "+" then
    let _ ← lifetime
    pure ⟨true, .operator ","⟩
  else if a.literal || a.group .brace then
    g.constantArgument
    pure {}
  else
    match ← g.type true with
    | .path true =>
      if ← operator? "=" then
        let a ← ahead
        if a.literal || a.group .brace then g.constantArgument
        else
          let _ ← g.type true
        pure {}
      else if ← operator? ":" then
        let (_, missing) ← boundsUntil g.typeBound .identifier fun a => a.sign ">"
        pure ⟨false, missing⟩
      else pure {}
    | _ => pure {}

/-- Arguments in angle brackets, with colons before them or without. -/
def angledArguments (g : Grammar) : Parser Unit := do
  let _ ← operator? "::"
  operator "<"
  let es ← entries g.genericArgument
  writePieces (Entry.lifetimesFirst es)
  operator ">"

/-- What a type may be that follows an arrow, if an arrow is next. -/
def returnType (g : Grammar) (plus : Bool) : Parser Unit := do
  if ← operator? "->" then
    let _ ← g.type plus

/-- Arguments in parentheses, and what they are turned into. -/
def parenthesizedArguments (g : Grammar) : Parser Unit := do
  group .parenthesis <| Content.terminated do
    let _ ← g.type true
  g.returnType false

/-- The lifetimes and types that a type captures. -/
def captures : Parser Unit := do
  keyword "use"
  operator "<"
  let es ← loop ([] : List Entry) fun es => do
    let a ← ahead
    if a.sign ">" then pure (.inr es)
    else if !(a.lifetime || a.identifier || a.word "Self") then
      fail (.expected [.lifetime, .identifier, .sign ">"])
    else
      let ((), pieces) ← captured do
        if a.lifetime then
          let _ ← lifetime
        else anyWord
      let next ← ahead
      let either : SyntaxFault := .expected [.sign ",", .sign ">"]
      if next.isEmpty then
        silent (comma either)
        pure (.inl (es ++ [⟨a.lifetime, pieces, true⟩]))
      else if next.sign ">" then pure (.inr (es ++ [⟨a.lifetime, pieces, false⟩]))
      else fail either
  writePieces (Entry.lifetimesFirst es)
  operator ">"

/-- A bound by a trait. A binder is written after the question mark that relaxes the bound. -/
def traitBound (g : Grammar) (constants : Bool) : Parser BoundShape := do
  let ((), bound) ← captured do
    if (← ahead).word "for" then g.binder
  let a ← ahead
  let conditional := a.group .bracket
  let constant := a.word "const"
  if conditional then
    let ((), trees) ← withTrees <| group .bracket (liftM (keyword "const") : Content Unit)
    if !constants then failAt .optionalConstNotAllowed ((Tree.spanOf trees).getD .nowhere)
  else if constant then
    let t ← token (.expected [.sign "const"]) fun t => t.isWord "const"
    if !constants then failAt .constNotAllowed t.span
  let relaxed ← operator? "?"
  writePieces bound
  if relaxed && bound.isEmpty && (← ahead).word "for" then g.binder
  let p ← g.path false
  let a ← ahead
  if !p.arguments && (a.group .parenthesis || (a.sign "::" && a.skip.skip.group .parenthesis)) then
    let _ ← silent (operator? "::")
    g.parenthesizedArguments
  pure (if conditional || constant then .verbatim else .trait)

/-- A bound: a lifetime, a list of captures or a trait, which may stand in parentheses. -/
def anyBound (g : Grammar) (capturing constants : Bool) : Parser BoundShape := do
  let a ← ahead
  if a.lifetime then
    let span ← lifetime
    pure (.lifetime span)
  else if a.word "use" then
    let ((), trees) ← withTrees captures
    let span := (Tree.spanOf trees).getD .nowhere
    if capturing then pure (.capture span) else failAt .captureNotAllowed span
  else
    asWrittenIf (fun b => b == .verbatim) <|
      if a.group .parenthesis then group .parenthesis (liftM (g.traitBound constants) : Content BoundShape)
      else g.traitBound constants

end TypedFormat.Source.Grammar

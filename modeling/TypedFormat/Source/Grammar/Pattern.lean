import TypedFormat.Source.Grammar.Member
import TypedFormat.Source.Grammar.Path

/-!
# Patterns

A pattern is a name, a literal or a range of literals, a path with the patterns of what it holds, a tuple or a slice.
Two dots stand for what a pattern leaves out.
-/

namespace TypedFormat.Source.Grammar

open TypedFormat.Source.Parser

/-- How a pattern can start. -/
def patternStarts : List Expected :=
  [.identifier, .sign "::", .sign "<", .sign "_", .literal, .sign "const", .sign "ref", .sign "mut", .sign "&",
    .group .parenthesis, .group .bracket, .sign "..", .sign "const"]

/-- How an end of a range can start. -/
def rangeBoundStarts : List Expected :=
  [.literal, .identifier, .sign "::", .sign "<", .sign "self", .sign "Self", .sign "super", .sign "crate",
    .sign "const"]

/-! ## Alternatives -/

/-- A bar is ahead that separates two alternatives. -/
def barAhead (a : Ahead) : Bool := a.sign "|" && !a.sign "||" && !a.sign "|="

/-- A pattern, or several with bars between them; one more bar may stand before the first. -/
def alternatives (g : Grammar) : Parser PatternShape := do
  let leading ← operator? "|"
  let shape ← g.pattern
  if leading || barAhead (← ahead) then
    whileAhead barAhead do
      operator "|"
      let _ ← g.pattern
    pure .other
  else pure shape

/-! ## Ranges -/

/-- The dots of a range, with their place. Three dots stand for the limits of a closed range where they are `obsolete`.
Gives whether the range is closed. -/
def rangeLimits (obsolete : Bool) : Parser (Bool × Span) := do
  let a ← ahead
  let (closed, trees) ←
    if a.sign "..=" then withTrees do
      operator "..="
      pure true
    else if a.sign "..." then
      if obsolete then
        let result ← withTrees do
          silent (operator "...")
          pure true
        write "..="
        pure result
      else fail (.expected [.sign "..="])
    else if a.sign ".." then withTrees do
      operator ".."
      pure false
    else fail (.expected [.sign "..", .sign "..="])
  pure (closed, (Tree.spanOf trees).getD .nowhere)

/-- A block of constants. -/
def constantBlock (g : Grammar) : Parser Unit := do
  keyword "const"
  g.blockWithAttributes

/-- Nothing is ahead that an end of a range can start with. -/
def boundEndsAhead (a : Ahead) : Bool :=
  a.isEmpty || a.sign "|" || a.sign "=" || (a.sign ":" && !a.sign "::") || a.sign ";" || a.word "if"

/-- An end of a range: a literal, a path or a block of constants. -/
def rangeBound (g : Grammar) : Parser Unit := do
  let a ← ahead
  if a.literal then literal
  else if a.identifier || a.sign "::" || a.sign "<" || a.wordIn pathWords then
    let _ ← g.anyPath true
  else if a.word "const" then g.constantBlock
  else fail (.expected rangeBoundStarts)

/-- The limits and the end of a range. Gives the limits where there is no end. -/
def rangeEnd (g : Grammar) (obsolete : Bool) : Parser (Option Span) := do
  let (closed, span) ← rangeLimits obsolete
  if boundEndsAhead (← ahead) then
    if closed then fail .rangeBound else pure (some span)
  else
    g.rangeBound
    pure none

/-- The rest of a range after its start. -/
def rangeAfterStart (g : Grammar) : Parser PatternShape := do
  match ← g.rangeEnd true with
  | some span => pure (.openRange span)
  | none => pure .other

/-- A range without a start, or two dots alone. -/
def rangeWithoutStart (g : Grammar) : Parser PatternShape := do
  let a ← ahead
  match ← withTrees (g.rangeEnd false) with
  | (some _, _) => pure .rest
  | (none, trees) => pure (.openRange ((Tree.spanOf (trees.take (if a.sign "..=" then 3 else 2))).getD .nowhere))

/-! ## Patterns of what a value holds -/

/-- Patterns with a comma between any two. -/
def patterns (g : Grammar) : Content Unit :=
  Content.terminated do
    let _ ← g.alternatives

/-- The pattern of a member: its name, which may be a pattern itself, or a pattern after it. -/
def memberPattern (g : Grammar) : Parser Unit := do
  let boxed ← keyword? "box"
  let byReference ← keyword? "ref"
  let mutable ← keyword? "mut"
  if boxed || byReference || mutable then identifier
  else
    let named ← member
    if !named || (← ahead).sign ":" then
      operator ":"
      let _ ← g.alternatives

/-- The members of a struct. Two dots stand for those that are left out. -/
def memberPatterns (g : Grammar) : Content Unit :=
  Content.loop () fun () => do
    if ← Content.atEnd then pure (.inr ())
    else
      g.attributes
      if (← Content.ahead).sign ".." then
        operator ".."
        pure (.inr ())
      else
        g.memberPattern
        if ← Content.atEnd then pure (.inr ())
        else
          operator ","
          pure (.inl ())

/-- The ranges in a slice have both ends. -/
def sliceElement (g : Grammar) : Parser Unit := do
  match ← g.alternatives with
  | .openRange limits => failAt .openRangeInSlice limits
  | _ => pure ()

/-- A pattern that starts with a path. -/
def patternOfPath (g : Grammar) : Parser PatternShape := do
  let p ← g.anyPath true
  let a ← ahead
  if expandsAhead p a then
    let _ ← expansionInput
    pure .other
  else if a.group .brace then
    group .brace g.memberPatterns
    pure .other
  else if a.group .parenthesis then
    group .parenthesis g.patterns
    pure .other
  else if a.sign ".." then g.rangeAfterStart
  else pure .other

/-! ## Patterns -/

/-- A path is ahead and not a name. -/
def pathPatternAhead (a : Ahead) : Bool :=
  let next := a.skip
  (a.identifier &&
      (next.sign "::" || next.sign "!" || next.group .brace || next.group .parenthesis || next.sign "..")) ||
    (a.word "self" && next.sign "::") || a.sign "::" || a.sign "<" || a.wordIn ["Self", "super", "crate"]

/-- A pattern without alternatives. -/
def anyPattern (g : Grammar) : Parser PatternShape := do
  let a ← ahead
  if pathPatternAhead a then g.patternOfPath
  else if a.word "_" then
    keyword "_"
    pure .other
  else if a.word "box" then
    asWrittenIf (fun _ => true) do
      keyword "box"
      let _ ← g.pattern
      pure .verbatim
  else if a.sign "-" || a.literal || a.word "const" then
    g.rangeBound
    if (← ahead).sign ".." then g.rangeAfterStart else pure .other
  else if a.wordIn ["ref", "mut", "self"] || a.identifier then
    let _ ← keyword? "ref"
    let _ ← keyword? "mut"
    if (← ahead).word "self" then anyWord else identifier
    if ← operator? "@" then
      let _ ← g.pattern
    pure .other
  else if a.sign "&" then
    operator "&"
    let _ ← keyword? "mut"
    let _ ← g.pattern
    pure .other
  else if a.group .parenthesis then
    group .parenthesis g.patterns
    pure .other
  else if a.group .bracket then
    group .bracket (Content.terminated g.sliceElement)
    pure .other
  else if a.sign ".." && !a.sign "..." then g.rangeWithoutStart
  else fail (.expected patternStarts)

end TypedFormat.Source.Grammar

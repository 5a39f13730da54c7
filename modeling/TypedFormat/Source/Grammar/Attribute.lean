import TypedFormat.Source.Grammar.Rule

/-!
# Attributes

An attribute is a group in square brackets after a number sign. An inner attribute has an exclamation mark between them
and stands at the start of a block.
-/

namespace TypedFormat.Source

open TypedFormat.Source.Parser

/-- The keywords that can be segments of a path. -/
def pathWords : List String := ["super", "self", "Self", "crate"]

/-- A path without arguments: words with colons between them. -/
def plainPath : Parser Unit := do
  let _ ← operator? "::"
  loop false fun afterColons => do
    let a ← ahead
    if a.identifier || a.wordIn pathWords then
      anyWord
      if ← operator? "::" then pure (.inl true) else pure (.inr ())
    else if afterColons then fail .pathSegment
    else
      identifier
      pure (.inr ())

namespace Grammar

/-- What stands in the brackets of an attribute: a path, and a group or a value after it. -/
def attributeContent (g : Grammar) : Content Unit := do
  if (← Content.ahead).word "unsafe" then keyword "unsafe" else plainPath
  let a ← Content.ahead
  if a.anyGroup then
    let _ ← rawGroup
  else if a.sign "=" then
    operator "="
    let a ← Content.ahead
    if a.sign "#" && a.skip.group .bracket then fail .attributeInAttribute
    else
      let _ ← g.expression true

/-- The attributes before a construct. -/
def attributes (g : Grammar) : Parser Unit :=
  whileAhead (fun a => a.sign "#") do
    operator "#"
    group .bracket g.attributeContent

/-- The attributes at the start of a block. -/
def innerAttributes (g : Grammar) : Parser Unit :=
  whileAhead (fun a => a.sign "#" && a.skip.sign "!") do
    operator "#"
    operator "!"
    group .bracket g.attributeContent

/-- A block that may start with attributes. -/
def blockWithAttributes (g : Grammar) : Parser Unit :=
  group .brace do
    g.innerAttributes
    g.statements

end Grammar

end TypedFormat.Source

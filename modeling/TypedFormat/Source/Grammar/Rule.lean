import TypedFormat.Source.Content

/-!
# The rules of the grammar

The grammar of expressions is recursive: an expression can hold types, patterns and blocks, and each of these can hold
expressions. A `Grammar` gives a parser for each rule that others come back to. The parsers of the single constructs
take a grammar for the constructs inside them, so each is a plain function; `Grammar.upTo` ties the knot.

A rule gives what the reading of its surroundings depends on: the shape of what was read.
-/

namespace TypedFormat.Source

/-- How tightly operators bind, from the loosest to the tightest. -/
inductive Precedence where
  | jump
  | assign
  | range
  | or
  | and
  | binding
  | compare
  | bitOr
  | bitXor
  | bitAnd
  | shift
  | sum
  | product
  | cast
  deriving DecidableEq, Repr

/-- The place of the precedence in the order. -/
def Precedence.rank : Precedence → Nat
  | jump => 0
  | assign => 1
  | range => 2
  | or => 3
  | and => 4
  | binding => 5
  | compare => 6
  | bitOr => 7
  | bitXor => 8
  | bitAnd => 9
  | shift => 10
  | sum => 11
  | product => 12
  | cast => 13

/-- The shape of an expression. -/
inductive Shape where
  /-- A range; where it has no start, its limits stand there. -/
  | range (limits : Option Span)
  | comparison
  /-- A block, a loop, a condition or a `match`. -/
  | block
  /-- A macro, with the kind of brackets around its input. -/
  | expansion (d : Delimiter)
  /-- An expression that is written as it stands in the source. -/
  | verbatim
  | other
  deriving DecidableEq, Repr

/-- The shape of a pattern. -/
inductive PatternShape where
  /-- Two dots alone. -/
  | rest
  /-- A range without one of its ends; its limits stand there. -/
  | openRange (limits : Span)
  /-- A pattern that is written as it stands in the source. -/
  | verbatim
  | other
  deriving DecidableEq, Repr

/-- The shape of a path. -/
structure PathShape where
  /-- The path starts with a type in angle brackets. -/
  qualified : Bool
  /-- No segment has arguments. -/
  plain : Bool
  /-- The path is one segment, with no colons before it. -/
  single : Bool
  /-- The last segment has arguments. -/
  arguments : Bool
  deriving DecidableEq, Repr

/-- The shape of a type. -/
inductive TypeShape where
  /-- A path that is not qualified. -/
  | path (single : Bool)
  /-- A single bound that stands for a type. -/
  | bound
  | other
  deriving DecidableEq, Repr

/-- The shape of a bound. -/
inductive BoundShape where
  | trait
  | lifetime (span : Span)
  /-- The lifetimes and types that are captured. -/
  | capture (span : Span)
  /-- A bound that is written as it stands in the source. -/
  | verbatim
  deriving DecidableEq, Repr

/-- The rules for constructs that an expression can end with. -/
inductive Rule where
  /-- An expression. Without `structs`, a brace after a path is not taken for the fields of a struct. -/
  | expression (structs : Bool)
  /-- An operand with the signs before it and all that follows it. -/
  | unary (structs : Bool)
  /-- The operators after an operand that bind at least as tightly as `base`. -/
  | operators (lhs : Shape) (structs : Bool) (base : Precedence)
  /-- An expression that a block ends, if it starts with one: a statement, or what an arm of a `match` gives. -/
  | standalone
  /-- A pattern without alternatives. -/
  | pattern
  /-- A type. Without `plus`, a plus sign is not part of it. -/
  | type (plus : Bool)
  /-- A bound. It may capture lifetimes, and it may be constant, where this is allowed. -/
  | bound (captures constants : Bool)
  /-- Arguments in angle brackets. -/
  | genericArguments

/-- What a rule gives. -/
def Rule.Result : Rule → Type
  | expression _ => Shape
  | unary _ => Shape
  | operators _ _ _ => Shape
  | standalone => Shape
  | pattern => PatternShape
  | type _ => TypeShape
  | bound _ _ => BoundShape
  | genericArguments => Unit

/-- The rules for what stands in brackets only. -/
inductive ContentRule where
  /-- The statements of a block. -/
  | statements
  /-- A declaration after its attributes. Gives whether it is written as it stands in the source. -/
  | item
  /-- The named fields of a type. -/
  | fields
  /-- The tree of an import. Gives whether some branch starts with colons, which is only allowed where `root` holds. -/
  | useTree (root : Bool)

/-- What a rule for a content gives. -/
def ContentRule.Result : ContentRule → Type
  | statements => Unit
  | item => Bool
  | fields => Unit
  | useTree _ => Bool

/-- A parser for each rule. -/
structure Grammar where
  rule : (r : Rule) → Parser r.Result
  content : (r : ContentRule) → Content r.Result

namespace Grammar

/-- An expression. -/
def expression (g : Grammar) (structs : Bool) : Parser Shape := g.rule (.expression structs)

/-- An operand with its signs. -/
def unary (g : Grammar) (structs : Bool) : Parser Shape := g.rule (.unary structs)

/-- The operators after an operand. -/
def operators (g : Grammar) (lhs : Shape) (structs : Bool) (base : Precedence) : Parser Shape :=
  g.rule (.operators lhs structs base)

/-- An expression that a block ends, if it starts with one. -/
def standalone (g : Grammar) : Parser Shape := g.rule .standalone

/-- A pattern without alternatives. -/
def pattern (g : Grammar) : Parser PatternShape := g.rule .pattern

/-- A type. -/
def type (g : Grammar) (plus : Bool) : Parser TypeShape := g.rule (.type plus)

/-- A bound. -/
def bound (g : Grammar) (captures constants : Bool) : Parser BoundShape := g.rule (.bound captures constants)

/-- Arguments in angle brackets. -/
def genericArguments (g : Grammar) : Parser Unit := g.rule .genericArguments

/-- The statements of a block. -/
def statements (g : Grammar) : Content Unit := g.content .statements

/-- A declaration after its attributes. -/
def item (g : Grammar) : Content Bool := g.content .item

/-- The named fields of a type. -/
def fields (g : Grammar) : Content Unit := g.content .fields

/-- The tree of an import. -/
def useTree (g : Grammar) (root : Bool) : Content Bool := g.content (.useTree root)

/-- A block of statements. -/
def block (g : Grammar) : Parser Unit := Parser.group .brace g.statements

/-- Expressions with a comma between any two. -/
def expressions (g : Grammar) : Content Unit :=
  Content.terminated do
    let _ ← g.expression true

end Grammar

end TypedFormat.Source

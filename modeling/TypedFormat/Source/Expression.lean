import TypedFormat.Source.Grammar.Statement

/-!
# Expressions

Each rule of the grammar is the parser of its construct, with the grammar for the constructs inside it one level less
deep. Reading fails where the text nests deeper than there are levels.

An expression is read as far as it goes, and kept as the pieces that it is written with. Main statements: what is left
is a suffix of the trees (`Expression.rest_suffix`), there is no empty expression (`Expression.read_nil`,
`Expression.read_comma`), and an expression is read in the same way whether it ends the input or a comma follows it
(`Expression.read_append_comma`). What reads expressions under these laws is a `Reader`.
-/

namespace TypedFormat.Source

namespace Grammar

/-- The parser of a rule; `g` reads what is nested in it. -/
def step (g : Grammar) : (r : Rule) → Parser r.Result
  | .expression structs => show Parser Shape from do
    let shape ← g.unary structs
    g.operators shape structs .jump
  | .unary structs => g.operand structs
  | .operators lhs structs base => g.anyOperators lhs structs base
  | .standalone => g.standaloneExpression
  | .pattern => g.anyPattern
  | .type plus => g.anyType plus
  | .bound captures constants => g.anyBound captures constants
  | .genericArguments => g.angledArguments

/-- The parser of a rule for a content. -/
def contentStep (g : Grammar) : (r : ContentRule) → Content r.Result
  | .statements => g.blockStatements
  | .item => g.anyItem
  | .fields => g.namedFields
  | .useTree root => g.importTree root

/-- The grammar for texts that nest no deeper than this. -/
def upTo : Nat → Grammar
  | 0 => ⟨fun _ => Parser.fail .tooDeep, fun _ => Content.fail .tooDeep⟩
  | n + 1 => ⟨fun r => step (upTo n) r, fun r => contentStep (upTo n) r⟩

end Grammar

/-- An expression as it is written, with its place and the first tree in its groups that is out of place. -/
structure Expression where
  pieces : List Piece
  span : Span
  stray : Option Stray
  deriving DecidableEq, Repr

namespace Expression

/-- The expression in one line: one space stands between two pieces that are not joint. -/
def text (e : Expression) : String := Piece.spaced e.pieces

/-- The parser of expressions. -/
def parser : Parser (List Tree) := do
  let (_, trees) ← Parser.withTrees ((Grammar.upTo stepLimit).expression true)
  pure trees

/-- The expression at the front of the trees, and the rest. -/
def read (ts : List Tree) : Except SyntaxError (Expression × List Tree) :=
  (parser.run .nowhere ts).map fun r =>
    (⟨r.written, (Tree.spanOf r.value).getD .nowhere, r.stray⟩, r.rest)

/-- What is left is a suffix of the trees. -/
theorem rest_suffix {ts rest : List Tree} {e : Expression} (h : read ts = .ok (e, rest)) : rest <:+ ts := by
  unfold read at h
  cases hr : parser.run .nowhere ts with
  | error err => rw [hr] at h; cases h
  | ok r =>
    rw [hr] at h
    cases h
    exact parser.suffix hr

/-- There is no empty expression. -/
theorem read_nil : read [] = .error ⟨.expression, .nowhere, true⟩ := rfl

/-- No expression starts with a comma. -/
theorem read_comma {c : Tree} (hc : c.isComma = true) (more : List Tree) :
    read (c :: more) = .error ⟨.expression, c.span, false⟩ := by
  obtain ⟨span, joint, rfl⟩ := Tree.isComma_eq_true hc
  rfl

/-- An expression is read up to a comma in the same way as where the input ends there. -/
theorem read_append_comma {ts rest more : List Tree} {e : Expression} {c : Tree} (hc : c.isComma = true) :
    read (ts ++ c :: more) = .ok (e, rest ++ c :: more) ↔ read ts = .ok (e, rest) := by
  constructor
  · intro h
    unfold read at h ⊢
    cases hr : parser.run .nowhere (ts ++ c :: more) with
    | error err => rw [hr] at h; cases h
    | ok r =>
      rw [hr] at h
      simp only [Except.map, Except.ok.injEq, Prod.mk.injEq] at h
      rw [parser.untilComma hc hr h.2]
      simp only [Except.map, h.1]
  · intro h
    unfold read at h ⊢
    cases hr : parser.run .nowhere ts with
    | error err => rw [hr] at h; cases h
    | ok r =>
      rw [hr] at h
      cases h
      rw [parser.beforeComma hr hc more]
      rfl

/-- A way of reading the expression at the front of the trees. It takes trees from the front only, there is no expression at the
end of the input or at a comma, and a comma ends an expression in the same way as the end of the input. -/
structure Reader where
  read : List Tree → Except SyntaxError (Expression × List Tree)
  rest_suffix {ts rest : List Tree} {e : Expression} : read ts = .ok (e, rest) → rest <:+ ts
  read_nil : read [] = .error ⟨.expression, .nowhere, true⟩
  read_comma {c : Tree} : c.isComma = true → ∀ more, read (c :: more) = .error ⟨.expression, c.span, false⟩
  read_append_comma {ts rest more : List Tree} {e : Expression} {c : Tree} : c.isComma = true →
    (read (ts ++ c :: more) = .ok (e, rest ++ c :: more) ↔ read ts = .ok (e, rest))

/-- The reader of the grammar. -/
def reader : Reader where
  read := read
  rest_suffix := rest_suffix
  read_nil := read_nil
  read_comma := read_comma
  read_append_comma := read_append_comma

end Expression

end TypedFormat.Source

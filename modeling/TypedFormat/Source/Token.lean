import TypedFormat.Source.Span

/-!
# Tokens of source text

A token is a word (an identifier or a keyword), a lifetime, a literal or one character of an operator, with its text as
it stands in the source and its span. Brackets nest: what a pair of them encloses is one `Tree`, so a sequence of trees
has no bracket without its partner.

A token is `joint` when the next one is written right after it and they could belong to one operator. `Piece`s are what
a text of tokens is written from: a space stands after a piece unless it is joint.
-/

namespace TypedFormat.Source

/-- The three kinds of bracket. -/
inductive Delimiter where
  | parenthesis
  | bracket
  | brace
  deriving DecidableEq, Repr

namespace Delimiter

/-- The opening bracket. -/
def opening : Delimiter → String
  | parenthesis => "("
  | bracket => "["
  | brace => "\x7b"

/-- The closing bracket. -/
def closing : Delimiter → String
  | parenthesis => ")"
  | bracket => "]"
  | brace => "\x7d"

end Delimiter

/-- What sort of token a token is. -/
inductive Kind where
  | word
  | lifetime
  | string
  | number
  | otherLiteral
  | operator
  deriving DecidableEq, Repr

/-- A token at its place. -/
structure Token where
  kind : Kind
  text : String
  span : Span
  joint : Bool := false
  deriving DecidableEq, Repr

/-- The words that are no identifiers. -/
def keywords : List String :=
  ["_", "abstract", "as", "async", "await", "become", "box", "break", "const", "continue", "crate", "do", "dyn",
    "else", "enum", "extern", "false", "final", "fn", "for", "if", "impl", "in", "let", "loop", "macro", "match",
    "mod", "move", "mut", "override", "priv", "pub", "ref", "return", "Self", "self", "static", "struct", "super",
    "trait", "true", "try", "type", "typeof", "unsafe", "unsized", "use", "virtual", "where", "while", "yield"]

namespace Token

/-- The token is this character of an operator. -/
def isOperator (t : Token) (text : String) : Bool := t.kind == .operator && t.text == text

/-- The token is this word. -/
def isWord (t : Token) (text : String) : Bool := t.kind == .word && t.text == text

/-- The token is a word that is no keyword. -/
def isIdentifier (t : Token) : Bool := t.kind == .word && !keywords.contains t.text

/-- The token is a literal; the truth values are words. -/
def isLiteral (t : Token) : Bool :=
  t.kind == .string || t.kind == .number || t.kind == .otherLiteral || t.isWord "true" || t.isWord "false"

/-- Where a message about the token points: a lifetime is pointed at by its quote. -/
def blamed (t : Token) : Span := if t.kind = .lifetime then t.span.firstColumn else t.span

end Token

/-- A piece of written text. -/
structure Piece where
  text : String
  joint : Bool := false
  deriving DecidableEq, Repr

namespace Piece

/-- The pieces with a space after each that is not joint, the last one apart. -/
def spaced : List Piece → String
  | [] => ""
  | [p] => p.text
  | p :: q :: ps => (if p.joint then p.text else p.text ++ " ") ++ spaced (q :: ps)

end Piece

/-- A token, or all that a pair of brackets encloses. -/
inductive Tree where
  | leaf (token : Token)
  | group (delimiter : Delimiter) (opening closing : Span) (inner : List Tree)
  deriving Repr

namespace Tree

/-- From the first character to the last. -/
def span : Tree → Span
  | leaf t => t.span
  | group _ opening closing _ => opening.through closing

/-- Where a message about the tree points: a group is pointed at by its opening bracket. -/
def blamed : Tree → Span
  | leaf t => t.blamed
  | group _ opening _ _ => opening

/-- Where a tree that is out of place stands: a group stands there as a whole. -/
def place : Tree → Span
  | leaf t => t.blamed
  | group _ opening closing _ => opening.through closing

/-- The token, for a tree that is one. -/
def token? : Tree → Option Token
  | leaf t => some t
  | group .. => none

/-- The tree is a group in such brackets. -/
def isGroup (tree : Tree) (d : Delimiter) : Bool :=
  match tree with
  | leaf _ => false
  | group d' _ _ _ => d' == d

/-- The comma, which separates arguments. -/
def isComma (tree : Tree) : Bool := tree.token?.any fun t => t.isOperator ","

/-- A comma is a token of one character. -/
theorem isComma_eq_true {t : Tree} (h : t.isComma = true) :
    ∃ (span : Span) (joint : Bool), t = leaf ⟨.operator, ",", span, joint⟩ := by
  cases t with
  | group d o e inner => cases h
  | leaf t =>
    obtain ⟨kind, text, span, joint⟩ := t
    have h : kind = .operator ∧ text = "," := by
      simpa [isComma, token?, Token.isOperator] using h
    exact ⟨span, joint, by rw [h.1, h.2]⟩

mutual

/-- The tree as it stands in the source. -/
def pieces : Tree → List Piece
  | leaf t => [⟨t.text, t.joint⟩]
  | group d _ _ inner => ⟨d.opening, false⟩ :: allPieces inner ++ [⟨d.closing, false⟩]

/-- The trees as they stand in the source. -/
def allPieces : List Tree → List Piece
  | [] => []
  | t :: ts => t.pieces ++ allPieces ts

end

/-- From the first tree to the last. -/
def spanOf (ts : List Tree) : Option Span :=
  match ts.head?, ts.getLast? with
  | some first, some last => some (first.span.through last.span)
  | _, _ => none

end Tree

end TypedFormat.Source

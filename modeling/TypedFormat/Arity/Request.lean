import TypedFormat.Arity.Code
import TypedFormat.Source.Lexer

/-!
# Requests for a family

A request names a family, then, after a comma, the greatest arity as an integer literal; one more comma may follow. The
checks come in this order, and the first that fails is reported: the name is an identifier, a family has it, the comma,
the literal, its value, nothing is left over, and the arity lies within the bounds of the family.
-/

namespace TypedFormat.Arity

open TypedFormat.Source

/-- A family and a greatest arity, with the place where the arity stands. -/
structure Request where
  family : Family
  bound : Nat
  place : Span
  deriving DecidableEq, Repr

/-- Why a sequence of trees is refused. -/
inductive RequestError where
  | reading (e : SyntaxError)
  | unknownFamily (name : Token)
  /-- The number has a sign. -/
  | signed (place : Span)
  /-- The number does not fit a word of 64 bits. -/
  | overflow (place : Span)
  | bound (e : BoundError) (place : Span)
  deriving DecidableEq, Repr

namespace RequestError

/-- The wording of the refusal. -/
def message : RequestError → String
  | .reading e => e.message
  | .unknownFamily name => s!"Unknown arity family '{name.text}'. Expected sprintf, uncurry or tuple"
  | .signed _ => "invalid digit found in string"
  | .overflow _ => "number too large to fit in target type"
  | .bound e _ => e.message

/-- Where the message points. -/
def span : RequestError → Span
  | .reading e => e.span
  | .unknownFamily name => name.span
  | .signed place => place
  | .overflow place => place
  | .bound _ place => place

/-- The report of the error. -/
def diagnostic (e : RequestError) : Diagnostic := ⟨e.message, e.span⟩

end RequestError

/-- An integer literal; a minus sign before it belongs to it. -/
structure SignedLiteral where
  negative : Bool
  value : Nat
  place : Span
  deriving DecidableEq, Repr

namespace SignedLiteral

/-- The value of a tree that is an integer literal. -/
def value? (tree : Tree) : Option Nat :=
  (tree.token?.filter fun t => t.kind = .number).bind fun t => Literal.integer? t.text

/-- A tree is the minus sign. -/
def isMinus (tree : Tree) : Bool := tree.token?.any fun t => t.isOperator "-"

/-- The literal at the front of the trees, and the rest. -/
def read : List Tree → Except SyntaxError (SignedLiteral × List Tree)
  | [] => .error (.here (.expected [.integerLiteral]) .nowhere [])
  | t :: ts =>
    match value? t with
    | some n => .ok (⟨false, n, t.span⟩, ts)
    | none =>
      match isMinus t, ts with
      | true, u :: rest =>
        match value? u with
        | some n => .ok (⟨true, n, t.span.through u.span⟩, rest)
        | none => .error (.here (.expected [.integerLiteral]) .nowhere (t :: ts))
      | _, _ => .error (.here (.expected [.integerLiteral]) .nowhere (t :: ts))

/-- The value as a word of 64 bits without a sign. -/
def word (l : SignedLiteral) : Except RequestError Nat :=
  if l.negative then .error (.signed l.place)
  else if l.value < UInt64.size then .ok l.value
  else .error (.overflow l.place)

end SignedLiteral

namespace Request

/-- The identifier at the front of the trees, and the rest. -/
def readName : List Tree → Except RequestError (Token × List Tree)
  | .leaf t :: ts =>
    if t.isIdentifier then .ok (t, ts)
    else
      let fault : SyntaxFault := if t.kind = .word then .keyword t.text else .expected [.identifier]
      .error (.reading (.here fault .nowhere (.leaf t :: ts)))
  | ts => .error (.reading (.here (.expected [.identifier]) .nowhere ts))

/-- What is left after the comma that the trees start with. -/
def readComma : List Tree → Except RequestError (List Tree)
  | [] => .error (.reading (.here (.operator ",") .nowhere []))
  | t :: ts => if t.isComma then .ok ts else .error (.reading (.here (.operator ",") .nowhere (t :: ts)))

/-- What is left without a comma that the trees may start with. -/
def skipComma : List Tree → List Tree
  | [] => []
  | t :: ts => if t.isComma then ts else t :: ts

/-- The request that the trees write, before the bounds of the family are checked. -/
def read (ts : List Tree) : Except RequestError Request := do
  let (name, ts) ← readName ts
  let family ← (Family.ofName? name.text).elim (.error (.unknownFamily name)) .ok
  let ts ← readComma ts
  let (literal, ts) ← (SignedLiteral.read ts).mapError .reading
  let bound ← literal.word
  match skipComma ts with
  | [] => pure ⟨family, bound, literal.place⟩
  | t :: _ => throw (.reading ⟨.stray none, t.place, false⟩)

/-- The members that the trees ask for. -/
def members (ts : List Tree) : Except RequestError (List Member) := do
  let r ← read ts
  (r.family.check r.bound).mapError fun e => .bound e r.place
  pure (r.family.members r.bound)

/-- The code that a source text asks for. -/
def expand (source : String) : Except Diagnostic String := do
  let ts ← Diagnostic.trees source
  let ms ← (members ts).mapError RequestError.diagnostic
  pure (code ms)

end Request

end TypedFormat.Arity

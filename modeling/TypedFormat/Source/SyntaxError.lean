import TypedFormat.Source.Token

/-!
# Errors of reading source text

An error says what is wrong, where, and whether the input had ended there. A closing bracket ends the input of its
group. `SyntaxError.message` words it: most errors say so when the input has ended too early. What is reported is a
`Diagnostic`: a message and the place it points at.
-/

namespace TypedFormat.Source

/-- What can be expected at a point of the input. -/
inductive Expected where
  /-- This operator or keyword. -/
  | sign (text : String)
  | identifier
  | lifetime
  | literal
  | stringLiteral
  | integerLiteral
  /-- A group in such brackets. -/
  | group (d : Delimiter)
  deriving DecidableEq, Repr

/-- What an expectation is called. -/
def Expected.text : Expected → String
  | .sign t => s!"`{t}`"
  | .identifier => "identifier"
  | .lifetime => "lifetime"
  | .literal => "literal"
  | .stringLiteral => "string literal"
  | .integerLiteral => "integer literal"
  | .group .parenthesis => "parentheses"
  | .group .bracket => "square brackets"
  | .group .brace => "curly braces"

/-- What is wrong at a point of the input. -/
inductive SyntaxFault where
  /-- One of these things is expected. -/
  | expected (things : List Expected)
  /-- This operator is expected. -/
  | operator (text : String)
  /-- An identifier is expected where this keyword stands. -/
  | keyword (word : String)
  /-- The input was complete before a tree; `within` are the brackets that enclose it. -/
  | stray (within : Option Delimiter)
  | expression
  /-- A group of any kind is expected. -/
  | delimiter
  | member
  | pathSegment
  /-- An array has neither a comma nor a semicolon after its first element. -/
  | element
  | labelled
  | statementEnd
  | rangeBound
  | useName
  /-- A comparison follows a comparison. -/
  | chainedComparison
  /-- A cast is followed by something that would take the whole cast for its operand. -/
  | afterCast (what : String)
  /-- A loop with a label is the value of a jump. -/
  | parenthesesRequired
  | suffixedInteger
  | negativeInteger
  | integerTooLarge
  | openRangeInSlice
  | objectWithoutTrait
  | implWithoutTrait
  | captureNotAllowed
  | constNotAllowed
  | optionalConstNotAllowed
  | attributeInAttribute
  | attributeOnRange
  | genericsOfWhere
  | negativeInherent
  | secondReceiver
  | lateReceiver
  /-- The text nests deeper than can be read. -/
  | tooDeep
  deriving DecidableEq, Repr

namespace SyntaxFault

/-- The wording, where the input goes on. -/
def text : SyntaxFault → String
  | expected [] => "unexpected token"
  | expected [e] => s!"expected {e.text}"
  | expected [e₁, e₂] => s!"expected {e₁.text} or {e₂.text}"
  | expected es => "expected one of: " ++ ", ".intercalate (es.map Expected.text)
  | operator t => s!"expected `{t}`"
  | keyword w => s!"expected identifier, found keyword `{w}`"
  | stray none => "unexpected token"
  | stray (some d) => s!"unexpected token, expected `{d.closing}`"
  | expression => "expected an expression"
  | delimiter => "expected delimiter"
  | member => "expected identifier or integer"
  | pathSegment => "expected path segment after `::`"
  | element => "expected `,` or `;`"
  | labelled => "expected loop or block expression"
  | statementEnd => "unexpected token, expected `;`"
  | rangeBound => "expected range upper bound"
  | useName => "expected identifier or underscore"
  | chainedComparison => "comparison operators cannot be chained"
  | afterCast what => s!"casts cannot be followed by {what}"
  | parenthesesRequired => "parentheses required"
  | suffixedInteger => "expected unsuffixed integer"
  | negativeInteger => "invalid digit found in string"
  | integerTooLarge => "number too large to fit in target type"
  | openRangeInSlice => "range pattern is not allowed unparenthesized inside slice pattern"
  | objectWithoutTrait => "at least one trait is required for an object type"
  | implWithoutTrait => "at least one trait must be specified"
  | captureNotAllowed => "`use<...>` precise capturing syntax is not allowed here"
  | constNotAllowed => "`const` is not allowed here"
  | optionalConstNotAllowed => "`[const]` is not allowed here"
  | attributeInAttribute => "unexpected attribute inside of attribute"
  | attributeOnRange => "attributes are not allowed on range expressions starting with `..`"
  | genericsOfWhere => "generic parameters on `where` clauses are reserved for future use"
  | negativeInherent => "inherent impls cannot be negative"
  | secondReceiver => "unexpected second method receiver"
  | lateReceiver => "unexpected method receiver"
  | tooDeep => "nested too deeply"

/-- The error is worded in the same way whether or not the input has ended. -/
def sameAtEnd : SyntaxFault → Bool
  | operator _ => true
  | _ => false

end SyntaxFault

/-- A fault with its place; `atEnd` holds where the input had ended. -/
structure SyntaxError where
  fault : SyntaxFault
  span : Span
  atEnd : Bool := false
  deriving DecidableEq, Repr

namespace SyntaxError

/-- The fault at the front of the trees; `stop` is where they end. -/
def here (fault : SyntaxFault) (stop : Span) (ts : List Tree) : SyntaxError :=
  match ts with
  | [] => ⟨fault, stop, true⟩
  | t :: _ => ⟨fault, t.blamed, false⟩

/-- The wording. -/
def message (e : SyntaxError) : String :=
  if e.atEnd && !e.fault.sameAtEnd then
    match e.fault with
    | .expected [] => "unexpected end of input"
    | fault => s!"unexpected end of input, {fault.text}"
  else e.fault.text

end SyntaxError

/-- A message about a place in the source text. -/
structure Diagnostic where
  message : String
  span : Span
  deriving DecidableEq, Repr

/-- The report of a syntax error. -/
def Diagnostic.ofSyntaxError (e : SyntaxError) : Diagnostic := ⟨e.message, e.span⟩

end TypedFormat.Source

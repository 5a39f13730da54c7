import TypedFormat.Source.Literal
import TypedFormat.Source.Grammar.Rule

/-!
# Members

A member of a value is named by an identifier or by its place, an integer without a suffix that fits a word of 32 bits.
A place is written by its value. Two places with a point between them are one number in the source.
-/

namespace TypedFormat.Source.Grammar

open TypedFormat.Source.Parser

/-- The text of the number ahead, and whether a minus sign stands before it. -/
def numberAhead? (a : Ahead) : Option (Bool × String) :=
  let text (a : Ahead) : Option String := (a.token?.filter fun t => t.kind == .number).map Token.text
  match text a with
  | some n => some (false, n)
  | none => if a.sign "-" then (text a.skip).map fun n => (true, n) else none

/-- An integer is ahead. -/
def integerAhead (a : Ahead) : Bool := (numberAhead? a).any fun (_, n) => (Literal.integer? n).isSome

/-- A number with a fraction or an exponent is ahead. -/
def fractionAhead (a : Ahead) : Bool := (numberAhead? a).any fun (_, n) => (Literal.integer? n).isNone

/-- The place that a number names. -/
def place? (negative : Bool) (number : String) : Except SyntaxFault Nat :=
  match Literal.suffixed? number with
  | none => .error (.expected [.integerLiteral])
  | some (_, _ :: _) => .error .suffixedInteger
  | some (n, []) =>
    if negative then .error .negativeInteger
    else if n < UInt32.size then .ok n
    else .error .integerTooLarge

/-- The places in turn, with points between them. The first one is negative where `negative` holds. -/
def writePlaces (span : Span) (negative : Bool) : List String → Parser Unit
  | [] => pure ()
  | number :: more => do
    match place? negative number with
    | .error fault => failAt fault span
    | .ok n =>
      write (toString n)
      if !more.isEmpty then write "."
      writePlaces span false more

/-- A number that is ahead. It is not written. Gives its place. -/
def numberSpan : Parser Span := do
  let ((), trees) ← withTrees (silent literal)
  pure ((Tree.spanOf trees).getD .nowhere)

/-- The number of a member. A number with a fraction names a member of a member; it may end with a point, and what
follows then names a member again. Gives whether it ends with a point. -/
def places : Parser Bool := do
  let (negative, number) := (numberAhead? (← ahead)).getD (false, "")
  let span ← numberSpan
  let parts := number.splitOn "."
  let unfinished := parts.getLast? == some ""
  writePlaces span negative (if unfinished then parts.dropLast else parts)
  if unfinished then write "."
  pure unfinished

/-- The name or the place of a member. Gives whether it is a name. -/
def member : Parser Bool := do
  let a ← ahead
  if a.identifier then
    identifier
    pure true
  else if integerAhead a then
    let _ ← places
    pure false
  else fail .member

end TypedFormat.Source.Grammar

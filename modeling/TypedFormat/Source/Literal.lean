import TypedFormat.Text.Visible

/-!
# The values of literals

The text that a string literal stands for, the integer that a number stands for, and the literal that stands for a
text. A literal is taken as it was cut from the source, suffix included. What may stand in a literal is said first: a
literal with anything else is not cut from the source.
-/

namespace TypedFormat.Source.Literal

open TypedFormat.Text

/-! ## What may stand in quotes -/

/-- The value of a hexadecimal digit. -/
def hexDigit? (c : Char) : Option Nat :=
  if c.isDigit then some (c.toNat - '0'.toNat)
  else if 'a' ≤ c ∧ c ≤ 'f' then some (c.toNat - 'a'.toNat + 10)
  else if 'A' ≤ c ∧ c ≤ 'F' then some (c.toNat - 'A'.toNat + 10)
  else none

/-- The number that hexadecimal digits write; other characters count for nothing. -/
def hexNumber (cs : List Char) : Nat := (cs.filterMap hexDigit?).foldl (fun n d => 16 * n + d) 0

/-- The number that the first two characters write. -/
def hexPair? : List Char → Option Nat
  | a :: b :: _ => if (hexDigit? a).isSome ∧ (hexDigit? b).isSome then some (hexNumber [a, b]) else none
  | _ => none

/-- The number in braces at the front: up to six digits, with underscores after the first. -/
def hexInBraces? : List Char → Option Nat
  | '{' :: cs =>
    let body := cs.takeWhile (· != '}')
    let digits := body.filter (· != '_')
    if body.length < cs.length ∧ (body.head?.any (· != '_')) ∧ digits.all (fun c => (hexDigit? c).isSome) ∧
        digits.length ≤ 6 then some (hexNumber digits)
    else none
  | _ => none

/-- What a literal in quotes holds: characters, bytes, or characters before a zero that ends them. -/
inductive Holding where
  | characters
  | bytes
  | zeroEnded
  deriving DecidableEq, Repr

namespace Holding

/-- The character may stand in the literal as it is. A carriage return belongs to the end of a line. -/
def plain : Holding → Char → Bool
  | characters, c => c != '\r'
  | bytes, c => c != '\r' && c.toNat < 0x80
  | zeroEnded, c => c != '\r' && c.toNat != 0

/-- The number may stand in the literal as two hexadecimal digits. -/
def byte : Holding → Nat → Bool
  | characters, n => n < 0x80
  | bytes, _ => true
  | zeroEnded, n => n != 0

/-- The number may stand in the literal as that of a character. -/
def scalar : Holding → Nat → Bool
  | characters, n => n.isValidChar
  | bytes, _ => false
  | zeroEnded, n => n.isValidChar && n != 0

/-- A backslash may stand before the character `c`, which others follow. -/
def escape (h : Holding) (c : Char) (following : List Char) : Bool :=
  match c with
  | 'x' => (hexPair? following).any h.byte
  | 'u' => (hexInBraces? following).any h.scalar
  | '0' => h != .zeroEnded
  | c => ['n', 'r', 't', '\\', '\'', '"'].contains c

end Holding

/-- The number of characters that belong to an escape after its letter. -/
def escapeLength (c : Char) (following : List Char) : Nat :=
  match c with
  | 'x' => 2
  | 'u' => (following.takeWhile (· != '}')).length + 1
  | _ => 0

/-! ## Strings -/

/-- The characters that may indent the rest of a string literal after the end of a line. -/
def isIndent (c : Char) : Bool := c == ' ' || c == '\t' || c == '\n' || c == '\r'

/-- The character that a backslash and this letter stand for, and the letter's own character otherwise. -/
def shortEscape : Char → Char
  | 'n' => '\n'
  | 'r' => '\r'
  | 't' => '\t'
  | '0' => Char.ofNat 0
  | c => c

/-- The body of a quoted string up to its closing quote, with escapes replaced. A backslash at the end of a line takes
the indentation after it along. A carriage return and a line feed are one line feed. `skipping` holds after such a
backslash. -/
def unescape (skipping : Bool) : List Char → List Char
  | [] => []
  | '"' :: _ => []
  | '\\' :: 'x' :: a :: b :: cs => Char.ofNat (hexNumber [a, b]) :: unescape false cs
  | '\\' :: 'u' :: '{' :: cs =>
    have : (cs.dropWhile (· != '}')).length ≤ cs.length := (List.dropWhile_suffix _).length_le
    Char.ofNat (hexNumber (cs.takeWhile (· != '}'))) :: unescape false ((cs.dropWhile (· != '}')).drop 1)
  | '\\' :: c :: cs => if c = '\n' ∨ c = '\r' then unescape true cs else shortEscape c :: unescape false cs
  | '\r' :: '\n' :: cs => if skipping then unescape true cs else '\n' :: unescape false cs
  | c :: cs => if skipping ∧ isIndent c then unescape true cs else c :: unescape false cs
termination_by cs => cs.length
decreasing_by all_goals simp only [List.length_cons, List.length_drop]; omega

/-- The body of a raw string: what is before its last quote. -/
def rawBody (cs : List Char) : List Char := ((cs.reverse.dropWhile (· != '"')).drop 1).reverse

/-- The text of a string literal. -/
def string (literal : String) : String :=
  String.ofList <|
    match literal.toList with
    | 'r' :: cs => rawBody ((cs.dropWhile (· == '#')).drop 1)
    | _ :: cs => unescape false cs
    | [] => []

/-- A number in hexadecimal digits. -/
def hexadecimal (n : Nat) : List Char := Nat.toDigits 16 n

/-- The characters of a text as they stand in a quoted literal. A zero is written by its short escape unless that could
be taken for the start of a longer one. -/
def escaped : List Char → List Char
  | [] => []
  | c :: cs =>
    let here : List Char :=
      match c with
      | '"' => ['\\', '"']
      | '\\' => ['\\', '\\']
      | '\n' => ['\\', 'n']
      | '\r' => ['\\', 'r']
      | '\t' => ['\\', 't']
      | c =>
        if c.toNat = 0 then
          if cs.head?.any fun d => '0' ≤ d && d ≤ '7' then ['\\', 'x', '0', '0'] else ['\\', '0']
        else if isHidden c then ['\\', 'u', '{'] ++ hexadecimal c.toNat ++ ['}']
        else [c]
    here ++ escaped cs

/-- The quoted literal that stands for a text. -/
def quoted (text : List Char) : String := String.ofList ('"' :: escaped text ++ ['"'])

/-! ## Integers -/

/-- The base that a number is written in, and what follows the mark of the base. -/
def base : List Char → Nat × List Char
  | '0' :: 'x' :: cs => (16, cs)
  | '0' :: 'o' :: cs => (8, cs)
  | '0' :: 'b' :: cs => (2, cs)
  | cs => (10, cs)

/-- The value of a digit in the base: letters are digits above ten. -/
def digit? (base : Nat) (c : Char) : Option Nat := if c.isDigit ∨ 10 < base then hexDigit? c else none

/-- What follows the `e` is an exponent: it starts with a sign or has a digit. -/
def isExponent (cs : List Char) : Bool :=
  match cs.dropWhile (· == '_') with
  | c :: _ => c.isDigit || c == '+' || c == '-'
  | [] => false

/-- The integer that the characters write in the base, read on from `n`, and the suffix after the digits; nothing where
the number has a fraction, an exponent or a digit that the base does not have. -/
def digits (base n : Nat) : List Char → Option (Nat × List Char)
  | [] => some (n, [])
  | c :: cs =>
    if c = '_' then digits base n cs
    else if c = '.' ∧ base = 10 then none
    else if (c = 'e' ∨ c = 'E') ∧ base = 10 ∧ isExponent cs then none
    else
      match digit? base c with
      | some d => if d < base then digits base (base * n + d) cs else none
      | none => some (n, c :: cs)

/-- The integer that a number stands for, and its suffix; nothing for a number with a fraction or an exponent. -/
def suffixed? (literal : String) : Option (Nat × List Char) :=
  let (b, cs) := base literal.toList
  if (cs.find? (· != '_')).any fun c => (digit? b c).isSome then digits b 0 cs else none

/-- The integer that a number stands for, whatever its suffix. -/
def integer? (literal : String) : Option Nat := (suffixed? literal).map Prod.fst

end TypedFormat.Source.Literal

import TypedFormat.Text.Scan
import TypedFormat.Source.Literal
import TypedFormat.Source.SyntaxError

/-!
# From source text to trees

The text is cut into lexemes: stretches of blanks, comments, words, lifetimes, literals, operators and brackets.
Comments and blanks are dropped, except that a documentation comment stands for the attribute with its text; the other
lexemes are placed and nested. A text that is no sequence of lexemes, or whose brackets do not match, has no trees.
-/

namespace TypedFormat.Source

open TypedFormat.Text

/-- The Unicode property White_Space. -/
def isWhiteSpace (c : Char) : Bool :=
  let n := c.toNat
  (9 ≤ n && n ≤ 13) || n == 0x20 || n == 0x85 || n == 0xA0 || n == 0x1680 || (0x2000 ≤ n && n ≤ 0x200A) ||
    n == 0x2028 || n == 0x2029 || n == 0x202F || n == 0x205F || n == 0x3000

/-- White space and the left-to-right and right-to-left marks: what may stand between two tokens. -/
def isBlank (c : Char) : Bool := isWhiteSpace c || c.toNat == 0x200E || c.toNat == 0x200F

/-- What a piece of the text is. -/
inductive Role where
  /-- Blanks or a comment. -/
  | gap
  /-- A documentation comment with its text; an inner one belongs to what surrounds it. -/
  | documentation (inner : Bool) (text : List Char)
  | token (kind : Kind)
  | bracket (opens : Bool) (d : Delimiter)
  deriving DecidableEq, Repr

/-- A piece of the text. -/
structure Lexeme where
  role : Role
  text : List Char
  deriving DecidableEq, Repr

namespace Lexeme

/-- A word can start with this character: a letter, the underscore, or any non-ASCII character that is not blank. -/
def isWordStart (c : Char) : Bool := c.isAlpha || c == '_' || (0x80 ≤ c.toNat && !isBlank c)

/-- A word can go on with this character. -/
def isWordPart (c : Char) : Bool := isWordStart c || c.isDigit

/-- The characters up to the end of the item that starts the list, and those after it. -/
abbrev Cut := Option (List Char × List Char)

/-- `cs` cut after the run of characters that satisfy `p`. -/
def run (p : Char → Bool) (cs : List Char) : List Char × List Char := (cs.takeWhile p, cs.dropWhile p)

/-- The word that starts the list, if one does. -/
def wordPart (cs : List Char) : List Char × List Char :=
  match cs with
  | c :: _ => if isWordStart c then run isWordPart cs else ([], cs)
  | [] => ([], [])

/-- `front` goes before what was cut. -/
def withFront (front : List Char) (cut : Cut) : Cut := cut.map fun (a, b) => (front ++ a, b)

/-- A literal takes a word that follows it without a gap as its suffix. -/
def withSuffix (cut : Cut) : Cut := cut.map fun (a, b) => (a ++ (wordPart b).1, (wordPart b).2)

/-! ## Gaps -/

/-- The rest of a block comment at the given depth of nesting. -/
def blockComment : Nat → List Char → Cut
  | _, [] => none
  | depth, '/' :: '*' :: cs => withFront ['/', '*'] (blockComment (depth + 1) cs)
  | depth, '*' :: '/' :: cs =>
    match depth with
    | 0 => some (['*', '/'], cs)
    | depth + 1 => withFront ['*', '/'] (blockComment depth cs)
  | depth, c :: cs => withFront [c] (blockComment depth cs)

/-- Whether a comment documents what surrounds it, for those that document something. A fourth slash or a third star
makes a comment an ordinary one again. -/
def documents? : List Char → Option Bool
  | '/' :: '/' :: '!' :: _ => some true
  | '/' :: '*' :: '!' :: _ => some true
  | '/' :: '/' :: '/' :: cs => if cs.head? = some '/' then none else some false
  | '/' :: '*' :: '*' :: cs => if cs.head? = some '*' ∨ cs.head? = some '/' then none else some false
  | _ => none

/-- The text of a documentation comment: without the three characters that mark it, the two that close a block and the
carriage return that ends a line. -/
def documentation (comment : List Char) : List Char :=
  let text := comment.drop 3
  if comment.take 2 = ['/', '*'] then text.dropLast.dropLast
  else if text.getLast? = some '\r' then text.dropLast
  else text

/-- The role of a gap. -/
def gapRole (text : List Char) : Role :=
  match documents? text with
  | some inner => .documentation inner (documentation text)
  | none => .gap

/-- A carriage return stands elsewhere than at the end of a line. -/
def hasLoneReturn : List Char → Bool
  | '\r' :: '\n' :: cs => hasLoneReturn cs
  | '\r' :: _ => true
  | _ :: cs => hasLoneReturn cs
  | [] => false

/-- A comment, unless it documents something in a text with a lone carriage return. -/
def comment (cut : Cut) : Cut :=
  cut.filter fun (a, _) => (documents? a).isNone || !hasLoneReturn (documentation a)

/-- Blanks or a comment. -/
def gap : List Char → Cut
  | '/' :: '/' :: cs => comment (some (run (· != '\n') ('/' :: '/' :: cs)))
  | '/' :: '*' :: cs => comment (withFront ['/', '*'] (blockComment 0 cs))
  | c :: cs => if isBlank c then some (run isBlank (c :: cs)) else none
  | [] => none

/-! ## Literals -/

/-- The rest of a string up to its closing quote. A backslash takes the next character with it, and the rest of its escape
is made of characters that may stand there. -/
def quotedRest (h : Literal.Holding) : List Char → Cut
  | [] => none
  | '"' :: cs => some (['"'], cs)
  | '\\' :: c :: cs =>
    if c = '\n' ∨ (c = '\r' ∧ cs.head? = some '\n') ∨ h.escape c cs then withFront ['\\', c] (quotedRest h cs) else none
  | c :: cs =>
    if h.plain c ∨ (c = '\r' ∧ cs.head? = some '\n') then withFront [c] (quotedRest h cs) else none

/-- The rest of a raw string up to its closing quote, which `hashes` follow. -/
def rawRest (h : Literal.Holding) (hashes : List Char) : List Char → Cut
  | [] => none
  | c :: cs =>
    if c = '"' ∧ hashes.isPrefixOf cs then some ('"' :: hashes, cs.drop hashes.length)
    else if h.plain c ∨ (c = '\r' ∧ cs.head? = some '\n') then withFront [c] (rawRest h hashes cs)
    else none

/-- The most hashes before the quote of a raw string. -/
def mostHashes : Nat := 255

/-- A string without its leading letter: the hashes of a raw string, the quotes and what is between. -/
def rawString (h : Literal.Holding) (cs : List Char) : Cut :=
  let hashes := cs.takeWhile (· == '#')
  match cs.dropWhile (· == '#') with
  | '"' :: rest => if hashes.length ≤ mostHashes then withFront (hashes ++ ['"']) (rawRest h hashes rest) else none
  | _ => none

/-- A string literal: quoted or raw. -/
def string : List Char → Cut
  | '"' :: cs => withSuffix (withFront ['"'] (quotedRest .characters cs))
  | 'r' :: cs => withSuffix (withFront ['r'] (rawString .characters cs))
  | _ => none

/-- A character between quotes. -/
def character (h : Literal.Holding) : List Char → Cut
  | '\'' :: '\\' :: c :: cs =>
    let n := Literal.escapeLength c cs
    match h.escape c cs, cs.drop n with
    | true, '\'' :: rest => some ('\'' :: '\\' :: c :: cs.take n ++ ['\''], rest)
    | _, _ => none
  | '\'' :: c :: '\'' :: cs => if c ≠ '\'' ∧ h.plain c then some (['\'', c, '\''], cs) else none
  | _ => none

/-- Characters, bytes, byte strings and strings that end in a zero. -/
def otherLiteral : List Char → Cut
  | 'b' :: '"' :: cs => withSuffix (withFront ['b', '"'] (quotedRest .bytes cs))
  | 'c' :: '"' :: cs => withSuffix (withFront ['c', '"'] (quotedRest .zeroEnded cs))
  | 'b' :: 'r' :: cs => withSuffix (withFront ['b', 'r'] (rawString .bytes cs))
  | 'c' :: 'r' :: cs => withSuffix (withFront ['c', 'r'] (rawString .zeroEnded cs))
  | 'b' :: '\'' :: cs => withSuffix (withFront ['b'] (character .bytes ('\'' :: cs)))
  | cs => withSuffix (character .characters cs)

/-- The digits of a number, with underscores among them. -/
def isDigitPart (c : Char) : Bool := c.isDigit || c == '_'

/-- The point and the digits after it. A point that another point or a word follows is not part of the number. -/
def fraction : List Char → List Char × List Char
  | '.' :: cs =>
    match cs with
    | c :: _ =>
      if c = '.' ∨ isWordStart c then ([], '.' :: cs)
      else ('.' :: (run isDigitPart cs).1, (run isDigitPart cs).2)
    | [] => (['.'], [])
  | cs => ([], cs)

/-- The exponent, which has at least one digit. -/
def exponent (cs : List Char) : List Char × List Char :=
  match cs with
  | e :: rest =>
    if e = 'e' ∨ e = 'E' then
      let (sign, rest) :=
        match rest with
        | '+' :: r => (['+'], r)
        | '-' :: r => (['-'], r)
        | r => ([], r)
      let (digits, rest) := run isDigitPart rest
      if digits.any Char.isDigit then (e :: sign ++ digits, rest) else ([], cs)
    else ([], cs)
  | [] => ([], [])

/-- The digits after the mark of a base. There is at least one, and no decimal digit is too great for the base. -/
def based (base : Nat) (cs : List Char) : Cut :=
  let isDigit (c : Char) : Bool := isDigitPart c || (base == 16 && (Literal.hexDigit? c).isSome)
  let (digits, rest) := run isDigit cs
  if digits.any (· != '_') ∧ digits.all (fun c => c == '_' || (Literal.hexDigit? c).any (· < base)) then
    some (digits, rest)
  else none

/-- A number: in base two, eight or sixteen with its mark, or decimal; a suffix belongs to it. -/
def number : List Char → Cut
  | '0' :: 'x' :: cs => withSuffix (withFront ['0', 'x'] (based 16 cs))
  | '0' :: 'o' :: cs => withSuffix (withFront ['0', 'o'] (based 8 cs))
  | '0' :: 'b' :: cs => withSuffix (withFront ['0', 'b'] (based 2 cs))
  | cs => decimal cs
where
  decimal (cs : List Char) : Cut :=
    match cs with
    | c :: _ =>
      if c.isDigit then
        let (whole, rest) := run isDigitPart cs
        let (point, rest) := fraction rest
        let (power, rest) := exponent rest
        withSuffix (some (whole ++ point ++ power, rest))
      else none
    | [] => none

/-! ## Words, operators, brackets -/

/-- The words that cannot be marked as raw. -/
def neverRaw : List String := ["_", "super", "self", "Self", "crate"]

/-- An identifier or a keyword; an identifier can be marked as raw. -/
def name : List Char → Cut
  | 'r' :: '#' :: cs =>
    match wordPart cs with
    | ([], _) => none
    | (w, rest) => if neverRaw.contains (String.ofList w) then none else some ('r' :: '#' :: w, rest)
  | cs =>
    match wordPart cs with
    | ([], _) => none
    | cut => some cut

/-- How literals start that a word could be taken from. -/
def literalMarks : List String := ["r\"", "r#\"", "r##", "b\"", "b'", "br\"", "br#", "c\"", "cr\"", "cr#"]

/-- A word, which is not the start of a literal. -/
def word (cs : List Char) : Cut := if literalMarks.any fun mark => mark.toList.isPrefixOf cs then none else name cs

/-- A quote and a word, which no quote follows. -/
def lifetime : List Char → Cut
  | '\'' :: cs => (withFront ['\''] (name cs)).filter fun (_, rest) => rest.head? != some '\''
  | _ => none

/-- The characters that operators are made of. -/
def isOperatorChar (c : Char) : Bool := "~!@#$%^&*-=+|;:,<.>/?".toList.contains c

/-- One character of an operator, which is not the start of a comment. -/
def operator : List Char → Cut
  | '/' :: '/' :: _ => none
  | '/' :: '*' :: _ => none
  | c :: rest => if isOperatorChar c then some ([c], rest) else none
  | [] => none

/-- The bracket that the character is: whether it opens, and which it is. -/
def bracket? : Char → Option (Bool × Delimiter)
  | '(' => some (true, .parenthesis)
  | ')' => some (false, .parenthesis)
  | '[' => some (true, .bracket)
  | ']' => some (false, .bracket)
  | '{' => some (true, .brace)
  | '}' => some (false, .brace)
  | _ => none

/-- What was cut is a token of the given kind. -/
def named (kind : Kind) (cut : Cut) : Option (Lexeme × List Char) := cut.map fun (a, b) => (⟨.token kind, a⟩, b)

/-- One lexeme. Literals are tried before words, because some start with a letter. -/
def one : Scanner Lexeme := fun cs =>
  (gap cs).map (fun (a, b) => (⟨gapRole a, a⟩, b)) <|>
    named .string (string cs) <|> named .otherLiteral (otherLiteral cs) <|> named .number (number cs) <|>
    named .word (word cs) <|> named .lifetime (lifetime cs) <|> named .operator (operator cs) <|>
    match cs with
    | c :: rest => (bracket? c).map fun (opens, d) => (⟨.bracket opens d, [c]⟩, rest)
    | [] => none

/-- A token before the lexeme is joint with it: the lexeme starts with a character of an operator or with a quote. -/
def joins (l : Lexeme) : Bool :=
  match l.role with
  | .token _ => l.text.head?.any fun c => isOperatorChar c || c == '\''
  | _ => false

/-- The attribute that a documentation comment stands for. Every token of it has the place of the comment, and its
brackets stand at the ends of the comment. -/
def documentationAttribute (inner : Bool) (text : List Char) (span : Span) : List Tree :=
  let sign (c : String) : Tree := .leaf ⟨.operator, c, span, false⟩
  (if inner then [sign "#", sign "!"] else [sign "#"]) ++
    [.group .bracket span.firstColumn span.lastColumn
      [.leaf ⟨.word, "doc", span, false⟩, sign "=", .leaf ⟨.string, Literal.quoted text, span, false⟩]]

/-- What has been read of a group that is still open: its bracket, and what was read before it of the group around it,
the last tree first. -/
structure Opened where
  delimiter : Delimiter
  opening : Span
  before : List Tree
  deriving Repr

/-- The trees that the lexemes make up, each at its place. `done` holds the trees that were read of the innermost
group, the last one first, and `around` the groups that are open. -/
def nest (p : Position) (around : List Opened) (done : List Tree) : List Lexeme → Option (List Tree)
  | [] => if around.isEmpty then some done.reverse else none
  | l :: ls =>
    let span : Span := ⟨p, p.afterAll l.text⟩
    match l.role with
    | .gap => nest span.stop around done ls
    | .documentation inner text => nest span.stop around ((documentationAttribute inner text span).reverse ++ done) ls
    | .token kind =>
      let joint := kind == .operator && ls.head?.any joins
      nest span.stop around (.leaf ⟨kind, String.ofList l.text, span, joint⟩ :: done) ls
    | .bracket true d => nest span.stop (⟨d, span, done⟩ :: around) [] ls
    | .bracket false d =>
      match around with
      | [] => none
      | o :: around =>
        if o.delimiter = d then nest span.stop around (.group d o.opening span done.reverse :: o.before) ls else none

end Lexeme

/-- The mark of the byte order, with which a text may start. It counts as blank there. -/
def Lexeme.byteOrderMark : Char := '\uFEFF'

/-- The trees of a source text. -/
def Tree.read? (source : String) : Option (List Tree) :=
  let (mark, cs) := Lexeme.run (· == Lexeme.byteOrderMark) (source.toList.take 1)
  match Scanner.many Lexeme.one (cs ++ source.toList.drop 1) with
  | .ok (ls, []) => Lexeme.nest .origin [] [] (⟨.gap, mark⟩ :: ls)
  | _ => none

/-- A text that does not start with the mark has the trees that its lexemes make up. -/
theorem Tree.read?_of_lexemes {source : String} {ls : List Lexeme} (hmark : source.toList.head? ≠ some Lexeme.byteOrderMark)
    (h : Scanner.many Lexeme.one source.toList = .ok (ls, [])) :
    Tree.read? source = Lexeme.nest .origin [] [] (⟨.gap, []⟩ :: ls) := by
  unfold Tree.read?
  cases hcs : source.toList with
  | nil =>
    rw [hcs] at h
    simp only [Lexeme.run, List.take_nil, List.takeWhile_nil, List.dropWhile_nil, List.drop_nil, List.append_nil, h]
  | cons c cs =>
    rw [hcs] at h hmark
    have hc : (c == Lexeme.byteOrderMark) = false := by
      rw [beq_eq_false_iff_ne]
      rintro rfl
      exact hmark rfl
    have htake : (c :: cs).take 1 = [c] := rfl
    have hdrop : (c :: cs).drop 1 = cs := rfl
    simp only [htake, hdrop, Lexeme.run, List.takeWhile_cons, List.dropWhile_cons, hc, Bool.false_eq_true, if_false,
      List.singleton_append, h]

/-- The trees of a source text, or the report that it has none. -/
def Diagnostic.trees (source : String) : Except Diagnostic (List Tree) :=
  match Tree.read? source with
  | some ts => .ok ts
  | none => .error ⟨"lex error", .nowhere⟩

end TypedFormat.Source

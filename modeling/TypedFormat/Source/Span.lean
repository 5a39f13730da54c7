/-!
# Places in a source text

Lines are counted from one and columns from zero; a column counts scalars. A span runs from its first character up to,
and not including, its end.
-/

namespace TypedFormat.Source

/-- A line and a column. -/
structure Position where
  line : Nat
  column : Nat
  deriving DecidableEq, Repr

namespace Position

/-- Where a text starts. -/
def origin : Position := ⟨1, 0⟩

/-- The position after a character: a line feed starts a new line. -/
def after (p : Position) (c : Char) : Position :=
  if c = '\n' then ⟨p.line + 1, 0⟩ else ⟨p.line, p.column + 1⟩

/-- The position after all the characters. -/
def afterAll (p : Position) (cs : List Char) : Position := cs.foldl after p

/-- The written form, line before column. -/
def text (p : Position) : String := s!"{p.line}:{p.column}"

end Position

/-- The stretch of text from `start` up to `stop`. -/
structure Span where
  start : Position
  stop : Position
  deriving DecidableEq, Repr

namespace Span

/-- The span of what is not in the text: the empty one at its start. -/
def nowhere : Span := ⟨.origin, .origin⟩

/-- The least span that starts with the first and ends with the second. -/
def through (first last : Span) : Span := ⟨first.start, last.stop⟩

/-- The first character of a span, which is no line feed. -/
def firstColumn (s : Span) : Span := ⟨s.start, ⟨s.start.line, s.start.column + 1⟩⟩

/-- The last character of a span, which is no line feed. -/
def lastColumn (s : Span) : Span := ⟨⟨s.stop.line, s.stop.column - 1⟩, s.stop⟩

/-- The written form: both ends, with a dash between. -/
def text (s : Span) : String := s!"{s.start.text}-{s.stop.text}"

end Span

end TypedFormat.Source

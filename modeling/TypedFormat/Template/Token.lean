import TypedFormat.Builtin

/-!
# Tokens of a template

A template is a sequence of texts and placeholders. `Token.written` writes a token in the grammar of templates: braces
of a text doubled, a placeholder between braces. The limits on a template and the ways in which reading one can fail
are here too; `TemplateError.message` words them, and names the length, offset, name or count that the refusal is about
(`TemplateError.exists_message`).
-/

namespace TypedFormat.Template

/-- A text, a built-in placeholder, or a placeholder for the next renderer argument. -/
inductive Token where
  | text (text : String)
  | builtin (kind : Builtin)
  | renderer
  deriving DecidableEq, Repr

/-- The characters of a text with every brace doubled. -/
def doubled : List Char → List Char
  | [] => []
  | c :: cs => if c = '{' ∨ c = '}' then c :: c :: doubled cs else c :: doubled cs

/-- The characters of the token in a template. -/
def Token.written : Token → List Char
  | .text t => doubled t.toList
  | .builtin b => b.written.toList
  | .renderer => ['{', '}']

/-- The template that the tokens are read from. -/
def unparse (ts : List Token) : String := String.ofList (ts.flatMap Token.written)

/-- The most bytes that a template may have. -/
def maxBytes : Nat := 10000

/-- The most tokens that a template may have. -/
def maxTokens : Nat := 256

/-- Why a template is refused. -/
inductive TemplateError where
  /-- The template has this many bytes, more than `maxBytes`. -/
  | tooLong (bytes : Nat)
  /-- Reading stopped without consuming a character. -/
  | stalled
  /-- A lone closing brace stands at this byte. -/
  | unescapedBrace (offset : Nat)
  /-- An opening brace at this byte starts neither a doubled brace nor a placeholder. -/
  | malformedPlaceholder (offset : Nat)
  /-- No built-in placeholder has this name. -/
  | unknownPlaceholder (name : String)
  /-- There would be this many tokens, more than `maxTokens`. -/
  | tooManyTokens (count : Nat)
  deriving DecidableEq, Repr

namespace TemplateError

/-- What a placeholder may look like. -/
def expectation : String := s!"Expected one of {Builtin.listing} or '\x7b\x7d' with a renderer argument"

/-- The wording of the refusal. -/
def message : TemplateError → String
  | .tooLong bytes => s!"Template too long ({bytes} bytes). Maximum allowed: {maxBytes} bytes."
  | .stalled => "Invalid template"
  | .unescapedBrace offset =>
    s!"Unescaped '\x7d' at byte {offset} of the template. Use '\x7d\x7d' to escape it."
  | .malformedPlaceholder offset =>
    s!"Malformed placeholder at byte {offset} of the template. {expectation}; use '\x7b\x7b' for a literal brace."
  | .unknownPlaceholder name => s!"Unknown placeholder '\x7b{name}\x7d'. {expectation}."
  | .tooManyTokens count =>
    s!"Too many tokens in template (would exceed {count}). Maximum allowed: {maxTokens}."

/-- The words that the wording starts with. -/
def heading : TemplateError → String
  | .tooLong _ => "Template too long ("
  | .stalled => "Invalid template"
  | .unescapedBrace _ => "Unescaped '\x7d' at byte "
  | .malformedPlaceholder _ => "Malformed placeholder at byte "
  | .unknownPlaceholder _ => "Unknown placeholder '\x7b"
  | .tooManyTokens _ => "Too many tokens in template (would exceed "

/-- What the refusal is about: a length, an offset, a name or a count. -/
def subject : TemplateError → String
  | .tooLong n | .unescapedBrace n | .malformedPlaceholder n | .tooManyTokens n => toString n
  | .unknownPlaceholder name => name
  | .stalled => ""

/-- Every wording starts with its heading, and what the refusal is about comes right after it. -/
theorem exists_message (e : TemplateError) : ∃ ending, e.message = e.heading ++ e.subject ++ ending := by
  have hwhole : ∀ {s : String}, ∃ ending, s = s ++ ending := fun {_} => ⟨"", String.append_empty.symm⟩
  have hsnoc : ∀ {s : String} (t : String), (∃ ending, s = e.heading ++ e.subject ++ ending) →
      ∃ ending, s ++ t = e.heading ++ e.subject ++ ending := by
    rintro _ t ⟨ending, rfl⟩
    exact ⟨ending ++ t, String.append_assoc⟩
  cases e with
  | stalled => exact ⟨"", rfl⟩
  | unescapedBrace n => exact hsnoc _ hwhole
  | tooLong | malformedPlaceholder | unknownPlaceholder | tooManyTokens => exact hsnoc _ (hsnoc _ (hsnoc _ hwhole))

end TemplateError

end TypedFormat.Template

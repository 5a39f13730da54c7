import TypedFormat.Template.Raw
import TypedFormat.Template.Token

/-!
# Reading a template

`Token.read?` gives the tokens of a template or says why there are none. The checks come in this order: the length of
the template; a brace out of place anywhere; then, from left to right, the names of the placeholders and the number of
tokens. Texts that stand next to each other, doubled braces among them, make one token.
-/

namespace TypedFormat.Template

open TypedFormat.Text

/-- The tokens gathered so far, and the text since the last placeholder. -/
structure Gathered where
  tokens : List Token := []
  pending : List Char := []
  deriving Repr

namespace Gathered

/-- One more token, if the template may have it. -/
def push (g : Gathered) (t : Token) : Except TemplateError Gathered :=
  if g.tokens.length < maxTokens then .ok { g with tokens := g.tokens ++ [t] }
  else .error (.tooManyTokens (g.tokens.length + 1))

/-- The pending text becomes a token, unless it is empty. -/
def flush (g : Gathered) : Except TemplateError Gathered :=
  if g.pending.isEmpty then .ok g
  else { g with pending := [] }.push (.text (String.ofList g.pending))

/-- The token of a placeholder's name: the empty name asks for a renderer. -/
def lookUp (name : List Char) : Except TemplateError Token :=
  if name.isEmpty then .ok .renderer
  else
    match Builtin.ofName? (String.ofList name) with
    | some b => .ok (.builtin b)
    | none => .error (.unknownPlaceholder (String.ofList name))

/-- One raw token more. A placeholder ends the pending text before its name is looked up. -/
def add (g : Gathered) : Raw → Except TemplateError Gathered
  | .text run => .ok { g with pending := g.pending ++ run }
  | .placeholder name => do
    let g ← g.flush
    let t ← lookUp name
    g.push t

/-- The tokens of the raw tokens, with neighbouring texts merged. -/
def all (raw : List Raw) : Except TemplateError (List Token) := do
  let g ← raw.foldlM add {}
  let g ← g.flush
  pure g.tokens

end Gathered

/-- The fault at the first brace out of place: `rest` is what reading left of the template. -/
def braceError (template rest : List Char) : TemplateError :=
  let offset := utf8Size template - utf8Size rest
  match rest with
  | '}' :: _ => .unescapedBrace offset
  | _ => .malformedPlaceholder offset

/-- The tokens of a template. -/
def Token.read? (template : String) : Except TemplateError (List Token) :=
  if maxBytes < template.utf8ByteSize then .error (.tooLong template.utf8ByteSize)
  else
    match Raw.read template.toList with
    | .error _ => .error .stalled
    | .ok (raw, rest) => if rest.isEmpty then Gathered.all raw else .error (braceError template.toList rest)

end TypedFormat.Template

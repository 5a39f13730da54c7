import TypedFormat.Discharge
import TypedFormat.Renderer

/-!
# Descriptions of formats

A description says how a format is made: from leaves, by concatenation, from a template, from a ready-made sample or
from a stored format. `Description.build` makes it, part by part from left to right; the first part that cannot be made
is reported.
-/

namespace TypedFormat

open TypedFormat.Template

namespace Template.Expansion

/-- The format that an expression of combinators stands for. -/
def format : Expansion Renderer → Format (Except Fault)
  | literal t => .literal t
  | atom c => .placeholder c.render
  | custom r => .placeholder r
  | cat l r => l.format.cat r.format

/-- The renderers found under their names, from left to right. -/
def resolve : Expansion String → Except Problem (Expansion Renderer)
  | literal t => .ok (.literal t)
  | atom c => .ok (.atom c)
  | custom name => (Renderer.ofName? name).elim (.error .unknownRenderer) fun r => .ok (.custom r)
  | cat l r => do
    let l ← l.resolve
    let r ← r.resolve
    pure (.cat l r)

end Template.Expansion

namespace Renderer

/-- A list of lists of arguments, each supplied to the inner format, with a separator between the texts. That the value
is a list of lists is checked first. -/
def nested (inner : Format (Except Fault)) (separator : String) : Renderer := fun v => do
  let rows ← (← v.list?).mapM Value.list?
  let texts ← rows.mapM fun row => do (← inner.sprintf.supplyAll row).finish
  pure (separator.intercalate texts)

end Renderer

/-- The formats that are made from templates once and for all. -/
inductive Sample where
  | empty
  | hello
  | escaped
  | wrappedBool
  | point
  | price
  | tagged
  | shown
  | renderers
  | raw
  | unicode
  deriving DecidableEq, Repr

namespace Sample

/-- The template of the sample. -/
def template : Sample → String
  | empty => ""
  | hello => "Hello, Gleam!"
  | escaped => "\x7b\x7b\x7d\x7d"
  | wrappedBool => "\x7b\x7b\x7bbool\x7d\x7d\x7d"
  | point => "(\x7bint\x7d, \x7bint\x7d)"
  | price => "\x7bstring\x7d costs $\x7bfloat\x7d"
  | tagged => "\x7b\x7b\x7bstring\x7d\x7d\x7d = \x7b\x7d"
  | shown => "char=\x7bdisplay\x7d, ok=\x7bbool\x7d"
  | renderers => "\x7b\x7d then \x7b\x7d"
  | raw => "\"\x7bint\x7d\"\\n\x7b\x7b"
  | unicode => "ü\t\x7bstring\x7d\n✓"

/-- The renderers that the template asks for. -/
def customs : Sample → List Renderer
  | tagged => [Renderer.intsSeparated ","]
  | renderers => [Renderer.upper, Renderer.hash]
  | _ => []

/-- The format of the sample. -/
def format (s : Sample) : Except Problem (Format (Except Fault)) :=
  ((Expansion.ofTemplate s.template s.customs).mapError .template).map Expansion.format

end Sample

/-- How a format is made. -/
inductive Description where
  | literal (text : String)
  | builtin (kind : Builtin)
  /-- A placeholder with the renderer of that name. -/
  | custom (renderer : String)
  /-- A placeholder for a list of rows, each of which is a list of arguments for the inner format. -/
  | nested (inner : Description) (separator : String)
  | join (left : Description) (way : Spec.Joining) (right : Description)
  /-- Parts joined from the left: the first two, then the third, and so on. -/
  | leftwards (first : Description) (rest : List Description)
  /-- Parts joined from the right. -/
  | rightwards (first : Description) (rest : List Description)
  | template (text : String) (renderers : List String)
  | sample (s : Sample)
  /-- The format stored under that name. -/
  | stored (name : String)

namespace Description

/-- Formats joined from the right. -/
def joinRight (first : Format (Except Fault)) : List (Format (Except Fault)) → Format (Except Fault)
  | [] => first
  | next :: rest => first.cat (joinRight next rest)

mutual

/-- The format that is described; `find` gives the stored formats. -/
def build (find : String → Option (Format (Except Fault))) : Description → Except Problem (Format (Except Fault))
  | literal t => .ok (.literal t)
  | builtin b => .ok (.placeholder b.combinator.render)
  | custom name => (Renderer.ofName? name).elim (.error .unknownRenderer) fun r => .ok (.placeholder r)
  | nested inner separator => do
    let inner ← build find inner
    pure (.placeholder (Renderer.nested inner separator))
  | join left way right => do
    let left ← build find left
    let right ← build find right
    pure (.join left way right)
  | leftwards first rest => do
    let first ← build find first
    let rest ← buildAll find rest
    pure (rest.foldl Format.cat first)
  | rightwards first rest => do
    let first ← build find first
    let rest ← buildAll find rest
    pure (joinRight first rest)
  | template t renderers => do
    let x ← (Expansion.ofTemplate t renderers).mapError .template
    pure (← x.resolve).format
  | sample s => s.format
  | stored name => (find name).elim (.error .unbound) .ok

/-- The formats that are described, in order. -/
def buildAll (find : String → Option (Format (Except Fault))) :
    List Description → Except Problem (List (Format (Except Fault)))
  | [] => .ok []
  | d :: ds => do
    let t ← build find d
    let ts ← buildAll find ds
    pure (t :: ts)

end

end Description

end TypedFormat

import TypedFormat.Source.Arguments
import TypedFormat.Source.Lexer
import TypedFormat.Template.Expansion

/-!
# Expanding the source text of a template

`SpecCall.expand` takes the source text of a template with its renderers to the expression of combinators that it
stands for. Errors of reading the arguments come before errors of the template. An error of the template points at its
literal, and a surplus of renderers at the first that is not used.
-/

namespace TypedFormat.Source.SpecCall

open TypedFormat.Template

/-- The place that an error of the expansion points at. -/
def blamed (args : Arguments) (e : ExpansionError) : Span :=
  match e.renderer? with
  | some i => (args.renderers[i]?.map Expression.span).getD .nowhere
  | none => args.template.span

/-- The expansion of arguments that were read. -/
def ofArguments (args : Arguments) : Except Diagnostic (Expansion Expression) :=
  match Expansion.ofTemplate (Literal.string args.template.text) args.renderers with
  | .ok x => .ok x
  | .error e => .error ⟨e.message, blamed args e⟩

/-- The expansion of a sequence of trees. -/
def ofTrees (p : Expression.Reader) (ts : List Tree) : Except Diagnostic (Expansion Expression) :=
  match Arguments.read p ts >>= Arguments.complete with
  | .ok args => ofArguments args
  | .error e => .error (.ofSyntaxError e)

/-- The expansion of a source text. -/
def expand (source : String) : Except Diagnostic (Expansion Expression) := do
  let ts ← Diagnostic.trees source
  ofTrees Expression.reader ts

end TypedFormat.Source.SpecCall

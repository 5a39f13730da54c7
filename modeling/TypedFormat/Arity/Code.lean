import TypedFormat.Arity.Member

/-!
# The code of a member

A member is written as the words of its declaration: one word for each token, brackets included.
-/

namespace TypedFormat.Arity

/-- A path of names, each after a double colon. -/
def path (names : List String) : List String := names.flatMap fun n => ["::", n]

/-- The type of texts. -/
def textType : List String := path ["std", "string", "String"]

/-- A path in the library that the code is part of. -/
def ownPath (names : List String) : List String := "crate" :: path names

/-- The groups of words with a comma between any two. -/
def separated (groups : List (List String)) : List String := [","].intercalate groups

/-- The groups of words with a comma after each. -/
def terminated (groups : List (List String)) : List String := groups.flatMap fun g => g ++ [","]

/-- The type as words. -/
def TypeTerm.words : TypeTerm → List String
  | .var v => [v.name]
  | .text => textType
  | .curried input rest => ownPath ["Curried"] ++ ["<", input.name, ","] ++ rest.words ++ [">"]

/-- The bound as words. -/
def Bound.words (b : Bound) : List String :=
  [b.callee.name, ":"] ++ path ["core", "ops", "FnOnce"] ++ ["(", b.input.name, ")", "->", b.output.name]

/-- The body as words, where the callee is written as `callee`. -/
def Call.words (callee : List String) : Call → List String
  | .callee => callee
  | .apply f i => f.words callee ++ ["(", argumentName i, ")"]

namespace Member

/-- The text of a documentation attribute as a literal: a line feed is written as an escape. -/
def docLiteral (m : Member) : String :=
  match m.family with
  | .sprintf =>
    s!"\"Discharges a spec with exactly {m.arity} argument(s), in placeholder order.\\n\\n" ++
      s!"Equivalent to `sprintf(spec)` followed by {m.arity} call(s).\""
  | _ => s!"\"Applies a chain of {m.arity} single-argument functions to {m.arity} arguments, in order.\""

/-- The documentation attribute. -/
def doc (m : Member) : List String := ["#", "[", "doc", "=", m.docLiteral, "]"]

/-- The type parameters in their brackets. -/
def generics (m : Member) : List String := ["<"] ++ separated (m.typeParams.map fun v => [v.name]) ++ [">"]

/-- The arguments, each with its type. -/
def declared (m : Member) : List (List String) := m.arguments.map fun (i, v) => [argumentName i, ":", v.name]

/-- The clause with the bounds. -/
def whereClause (m : Member) : List String := "where" :: separated (m.bounds.map Bound.words)

/-- The words between braces. -/
def braced (ws : List String) : List String := ["\x7b"] ++ ws ++ ["\x7d"]

/-- The words between parentheses. -/
def parenthesized (ws : List String) : List String := ["("] ++ ws ++ [")"]

/-- The function that discharges a specification. -/
def sprintfWords (m : Member) : List String :=
  m.doc ++ ["pub", "fn", s!"sprintf{m.arity}"] ++ m.generics ++
    parenthesized (separated
      ((["spec", ":", "&"] ++ ownPath ["Spec"] ++ ["<"] ++ textType ++ [","] ++ m.calleeType.words ++ [">"]) ::
        m.declared)) ++
    ["->"] ++ m.result.words ++ braced (m.body.words (ownPath ["sprintf"] ++ ["(", "spec", ")"]))

/-- The function that applies a chain. -/
def uncurryWords (m : Member) : List String :=
  m.doc ++ ["pub", "fn", s!"uncurry{m.arity}"] ++ m.generics ++
    parenthesized (separated (["f", ":", "F"] :: m.declared)) ++
    ["->"] ++ m.result.words ++ m.whereClause ++ braced (m.body.words ["f"])

/-- The instance for tuples. Without arguments there are no bounds, and the tuple goes unused. -/
def tupleWords (m : Member) : List String :=
  let types := parenthesized (terminated (m.arguments.map fun (_, v) => [v.name]))
  let tuple := parenthesized (terminated (m.arguments.map fun (i, _) => [argumentName i]))
  let names := if m.arity = 0 then ["_args"] else tuple
  ["impl"] ++ m.generics ++ ownPath ["Uncurry"] ++ ["<"] ++ types ++ [">", "for", "F"] ++
    (if m.arity = 0 then [] else m.whereClause) ++
    braced
      (["type", "Output", "="] ++ m.result.words ++ [";", "#", "[", "inline", "]", "fn", "uncurry"] ++
        parenthesized (["self", ","] ++ names ++ [":"] ++ types) ++ ["->"] ++ m.result.words ++
        braced (m.body.words ["self"]))

/-- The declaration as words. -/
def words (m : Member) : List String :=
  match m.family with
  | .sprintf => m.sprintfWords
  | .uncurry => m.uncurryWords
  | .tuple => m.tupleWords

end Member

/-- The code of the members, one after the other, with one space between any two words. -/
def code (ms : List Member) : String := " ".intercalate (ms.flatMap Member.words)

end TypedFormat.Arity

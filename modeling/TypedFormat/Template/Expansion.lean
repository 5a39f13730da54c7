import TypedFormat.Template.Reading

/-!
# The expansion of a template

A template and its renderers expand to an expression of combinators: each token becomes a leaf, a built-in placeholder a
call of the combinator for its kind, and the leaves are joined from left to right. The i-th renderer placeholder takes
the i-th renderer, and every renderer must be taken. What a renderer is, is left open: source text for a generator of
code, a function for a specification that is run.
-/

namespace TypedFormat.Template

/-- An expression of combinators. -/
inductive Expansion (ρ : Type) where
  | literal (text : String)
  /-- A call of a combinator without arguments. -/
  | atom (combinator : Combinator)
  | custom (renderer : ρ)
  | cat (left right : Expansion ρ)
  deriving DecidableEq, Repr

/-- Why a template with its renderers has no expansion. -/
inductive ExpansionError where
  | template (e : TemplateError)
  /-- The placeholder of this number, counted from one, has no renderer. -/
  | missingRenderer (number : Nat)
  /-- So many renderers are not used by the template, which has so many placeholders for them. -/
  | unusedRenderers (unused placeholders : Nat)
  deriving DecidableEq, Repr

/-- The wording of the refusal. -/
def ExpansionError.message : ExpansionError → String
  | .template e => e.message
  | .missingRenderer number =>
    s!"Renderer placeholder '\x7b\x7d' number {number} has no corresponding argument. " ++
      "Pass a renderer (e.g., |v: MyType| v.to_string()) or use a named placeholder (e.g., '\x7bint\x7d')"
  | .unusedRenderers unused placeholders =>
    s!"Too many arguments: {unused} unused renderer(s) provided. " ++
      s!"The template only has {placeholders} '\x7b\x7d' placeholder(s)"

/-- The renderer that an error points at, counted from zero; the others point at the template. -/
def ExpansionError.renderer? : ExpansionError → Option Nat
  | .unusedRenderers _ placeholders => some placeholders
  | _ => none

namespace Expansion

/-- The leaves of the tokens in order, and the number of renderers used when `used` were used before. -/
def leaves {ρ : Type} (renderers : List ρ) (used : Nat) : List Token → Except ExpansionError (List (Expansion ρ) × Nat)
  | [] => .ok ([], used)
  | .text t :: ts => (leaves renderers used ts).map fun (ls, n) => (.literal t :: ls, n)
  | .builtin b :: ts => (leaves renderers used ts).map fun (ls, n) => (.atom b.combinator :: ls, n)
  | .renderer :: ts =>
    match renderers[used]? with
    | none => .error (.missingRenderer (used + 1))
    | some r => (leaves renderers (used + 1) ts).map fun (ls, n) => (.custom r :: ls, n)

/-- The leaves joined from left to right. A single leaf stands alone, and no leaf at all is the empty text. -/
def join {ρ : Type} : List (Expansion ρ) → Expansion ρ
  | [] => .literal ""
  | l :: ls => ls.foldl .cat l

/-- The expansion of tokens that were read from a template. -/
def ofTokens {ρ : Type} (ts : List Token) (renderers : List ρ) : Except ExpansionError (Expansion ρ) := do
  let (ls, used) ← leaves renderers 0 ts
  if used < renderers.length then throw (.unusedRenderers (renderers.length - used) used)
  pure (join ls)

/-- The expansion of a template. -/
def ofTemplate {ρ : Type} (template : String) (renderers : List ρ) : Except ExpansionError (Expansion ρ) :=
  match Token.read? template with
  | .error e => .error (.template e)
  | .ok ts => ofTokens ts renderers

/-- The texts of the literals, from left to right. -/
def literals {ρ : Type} : Expansion ρ → List String
  | literal t => [t]
  | atom _ => []
  | custom _ => []
  | cat l r => l.literals ++ r.literals

/-- The renderers, from left to right. -/
def customs {ρ : Type} : Expansion ρ → List ρ
  | literal _ => []
  | atom _ => []
  | custom r => [r]
  | cat l r => l.customs ++ r.customs

/-- The expression with its literals and renderers numbered from `i` and `j`, written `$i` and `@j`. -/
def outlineFrom {ρ : Type} (i j : Nat) : Expansion ρ → String
  | literal _ => s!"literal(${i})"
  | atom c => s!"{c.name}()"
  | custom _ => s!"custom(@{j})"
  | cat l r =>
    let left := l.outlineFrom i j
    let right := r.outlineFrom (i + l.literals.length) (j + l.customs.length)
    s!"cat({left},{right})"

/-- The expression in outline: the i-th literal is written `$i` and the i-th renderer `@i`, both counted from zero. -/
def outline {ρ : Type} (e : Expansion ρ) : String := e.outlineFrom 0 0

end Expansion

end TypedFormat.Template

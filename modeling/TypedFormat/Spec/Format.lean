import TypedFormat.Spec.Basic
import TypedFormat.Spec.Curried

/-!
# Formats

A format is a tree of literals, placeholders and concatenations: a specification that can be looked into. `Format.spec`
is the specification that the tree stands for.
-/

namespace TypedFormat

/-- A tree of literals and placeholders. A placeholder renders any value, with the effect `f`. -/
inductive Format (f : Type → Type) where
  | literal (text : String)
  | placeholder (render : Value → f String)
  | join (left : Format f) (way : Spec.Joining) (right : Format f)

namespace Format

/-- The text of the left format followed by that of the right one. -/
def cat {f : Type → Type} (left right : Format f) : Format f := left.join .function right

/-- The length of the chain of a specification whose callback leaves a chain of length `n`. -/
def layers {f : Type → Type} : Format f → Nat → Nat
  | literal _, n => n
  | placeholder _, n => n + 1
  | join left _ right, n => left.layers (right.layers n)

/-- The specification that the tree stands for, for callbacks that leave a chain of length `n`. -/
def spec {f : Type → Type} [Functor f] {R : Type} : (t : Format f) → (n : Nat) →
    Spec (Curried f n R) (Curried f (t.layers n) R)
  | literal text, _ => Spec.literal text
  | placeholder render, _ => Spec.placeholder render
  | join left way right, n => (left.spec (right.layers n)).join way (right.spec n)

/-- The number of placeholders. -/
def arity {f : Type → Type} : Format f → Nat
  | literal _ => 0
  | placeholder _ => 1
  | join left _ right => left.arity + right.arity

/-- The chain that is left when the format is run with a callback. -/
def run {f : Type → Type} [Functor f] {R : Type} {n : Nat} (t : Format f) (k : String → Curried f n R) :
    Callable f R :=
  ⟨t.layers n, (t.spec n).run k⟩

/-- The chain that ends in the text of the format. -/
def sprintf {f : Type → Type} [Functor f] (t : Format f) : Callable f String := t.run (n := 0) id

@[simp] theorem run_literal {f : Type → Type} [Functor f] {R : Type} {n : Nat} (text : String)
    (k : String → Curried f n R) : (literal text : Format f).run k = ⟨n, k text⟩ := rfl

@[simp] theorem run_placeholder {f : Type → Type} [Functor f] {R : Type} {n : Nat} (render : Value → f String)
    (k : String → Curried f n R) : (placeholder render).run k = ⟨n + 1, fun v => k <$> render v⟩ := rfl

end Format

end TypedFormat

/-!
# Specifications

A specification says how a text is built, part of it from arguments that are still missing. It is run with a callback
that receives the finished text: `Spec R F` turns a callback with results in `R` into an `F`, which is `R` itself when
nothing is missing and a function of the first missing argument otherwise. Concatenation runs the left specification
with a callback that runs the right one, so the arguments of the left come first.

Concatenation is associative with the empty literal as its unit (`cat_assoc`, `cat_literal_empty`,
`literal_empty_cat`), for specifications made in any way whatever.
-/

namespace TypedFormat

universe u v w x

/-- A specification whose callback gives an `R` and which, run with one, gives an `F`. -/
structure Spec (R : Type u) (F : Type v) where
  run : (String → R) → F

namespace Spec

/-- A fixed text. -/
def literal {R : Type u} (text : String) : Spec R R := ⟨fun k => k text⟩

/-- A placeholder for an argument, with the effect `f` of rendering it. The callback gets the rendered text. -/
def placeholder {T R : Type} {f : Type → Type} [Functor f] (render : T → f String) : Spec R (T → f R) :=
  ⟨fun k value => k <$> render value⟩

/-- The text of `left` followed by the text of `right`. -/
def cat {F : Type u} {G : Type v} {R : Type w} (left : Spec G F) (right : Spec R G) : Spec R F :=
  ⟨fun k => left.run fun head => right.run fun tail => k (head ++ tail)⟩

/-- Concatenation as a method of the left specification. -/
def thenSpec {F : Type u} {G : Type v} {R : Type w} (left : Spec G F) (right : Spec R G) : Spec R F := left.cat right

/-- The sum of two specifications is their concatenation. -/
instance {F : Type u} {G : Type v} {R : Type w} : HAdd (Spec G F) (Spec R G) (Spec R F) := ⟨cat⟩

/-- The ways of writing a concatenation. -/
inductive Joining where
  | function
  | method
  | sum
  deriving DecidableEq, Repr

/-- The two specifications concatenated, written in the given way. -/
def join {F : Type u} {G : Type v} {R : Type w} (left : Spec G F) (way : Joining) (right : Spec R G) : Spec R F :=
  match way with
  | .function => cat left right
  | .method => left.thenSpec right
  | .sum => left + right

/-- A complete specification is discharged with the text itself as its result. -/
def sprintf {F : Type u} (spec : Spec String F) : F := spec.run id

@[ext] theorem ext {R : Type u} {F : Type v} {s t : Spec R F} (h : ∀ k, s.run k = t.run k) : s = t := by
  cases s
  cases t
  congr
  funext k
  exact h k

@[simp] theorem run_literal {R : Type u} (text : String) (k : String → R) : (literal text).run k = k text := rfl

@[simp] theorem run_placeholder {T R : Type} {f : Type → Type} [Functor f] (render : T → f String) (k : String → R)
    (value : T) : (placeholder render).run k value = k <$> render value := rfl

@[simp] theorem run_cat {F : Type u} {G : Type v} {R : Type w} (left : Spec G F) (right : Spec R G) (k : String → R) :
    (left.cat right).run k = left.run fun head => right.run fun tail => k (head ++ tail) := rfl

/-- The method is concatenation. -/
@[simp] theorem thenSpec_eq_cat {F : Type u} {G : Type v} {R : Type w} (left : Spec G F) (right : Spec R G) :
    left.thenSpec right = left.cat right := rfl

/-- The sum is concatenation. -/
@[simp] theorem add_eq_cat {F : Type u} {G : Type v} {R : Type w} (left : Spec G F) (right : Spec R G) :
    left + right = left.cat right := rfl

/-- However it is written, joining is concatenation. -/
theorem join_eq_cat {F : Type u} {G : Type v} {R : Type w} (way : Joining) (left : Spec G F) (right : Spec R G) :
    left.join way right = left.cat right := by cases way <;> rfl

/-- Concatenation is associative. -/
theorem cat_assoc {F : Type u} {G : Type v} {H : Type w} {R : Type x} (a : Spec G F) (b : Spec H G) (c : Spec R H) :
    (a.cat b).cat c = a.cat (b.cat c) := by
  ext k
  simp [String.append_assoc]

/-- The empty literal is a right unit. -/
theorem cat_literal_empty {F : Type u} {R : Type v} (a : Spec R F) : a.cat (literal "") = a := by
  ext k
  simp

/-- The empty literal is a left unit. -/
theorem literal_empty_cat {F : Type u} {R : Type v} (a : Spec R F) : (literal "").cat a = a := by
  ext k
  simp

/-- Two literals are one. -/
theorem literal_cat_literal {R : Type u} (s t : String) : (literal s).cat (literal t) = (literal (s ++ t) : Spec R R) := rfl

/-- How a specification shows itself: what it holds is a function, so nothing of it is shown. -/
def debugText : String := "Spec \x7b .. \x7d"

end Spec

end TypedFormat

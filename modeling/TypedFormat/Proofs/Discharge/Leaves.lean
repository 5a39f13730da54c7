import TypedFormat.Spec.Format

/-!
# The leaves of a format

A format is determined by its leaves: however they are grouped, and whichever way each join is written, the specification
that the tree stands for is the same (`Format.sized_eq_of_leaves_eq`), so running it with any callback leaves the same
chain (`Format.run_eq_of_leaves_eq`).

Formats with the same leaves have chains of the same length, but not by definition, so their specifications have different
types. `Sized` packs a specification with the length of its chain; putting a format in front of a sized specification
(`Sized.prepend`) is then an operation on one type.
-/

namespace TypedFormat

/-- A leaf of a format: a literal, or a placeholder with its renderer. -/
inductive Leaf (f : Type → Type) where
  | literal (text : String)
  | placeholder (render : Value → f String)

variable {f : Type → Type}

namespace Leaf

/-- The leaf as a format of its own. -/
def format : Leaf f → Format f
  | literal text => .literal text
  | placeholder render => .placeholder render

/-- The renderer of a placeholder. -/
def render? : Leaf f → Option (Value → f String)
  | literal _ => none
  | placeholder render => some render

end Leaf

namespace Format

/-- The leaves from left to right. -/
def leaves : Format f → List (Leaf f)
  | literal text => [.literal text]
  | placeholder render => [.placeholder render]
  | join left _ right => left.leaves ++ right.leaves

/-- The renderers of the placeholders from left to right. -/
def placeholders (t : Format f) : List (Value → f String) := t.leaves.filterMap Leaf.render?

end Format

/-- A specification and the length of the chain it gives, for callbacks that leave a chain of length `n`. -/
structure Sized (f : Type → Type) (n : Nat) (R : Type) where
  layers : Nat
  spec : Spec (Curried f n R) (Curried f layers R)

variable {n : Nat} {R : Type}

namespace Sized

/-- The empty text. -/
def empty : Sized f n R := ⟨n, Spec.literal ""⟩

/-- The chain that is left when the specification is run with a callback. -/
def run (s : Sized f n R) (k : String → Curried f n R) : Callable f R := ⟨s.layers, s.spec.run k⟩

@[simp] theorem run_empty (k : String → Curried f n R) : (empty : Sized f n R).run k = ⟨n, k ""⟩ := rfl

variable [Functor f]

/-- The specification of a format followed by another. -/
def prepend (t : Format f) (s : Sized f n R) : Sized f n R := ⟨t.layers s.layers, (t.spec s.layers).cat s.spec⟩

/-- The specification of leaves joined from the right. -/
def ofLeaves : List (Leaf f) → Sized f n R
  | [] => empty
  | l :: ls => prepend l.format (ofLeaves ls)

@[simp] theorem run_prepend_literal (text : String) (s : Sized f n R) (k : String → Curried f n R) :
    (prepend (.literal text) s).run k = s.run fun tail => k (text ++ tail) := rfl

/-- A placeholder in front takes one value more; the rest is run with what the value renders to. -/
theorem run_prepend_placeholder (render : Value → f String) (s : Sized f n R) (k : String → Curried f n R) :
    (prepend (.placeholder render) s).run k =
      ⟨s.layers + 1, fun v => (fun head => s.spec.run fun tail => k (head ++ tail)) <$> render v⟩ := rfl

/-- A join in front is its right part in front, and then its left part. -/
theorem prepend_join (left right : Format f) (way : Spec.Joining) (s : Sized f n R) :
    prepend (left.join way right) s = prepend left (prepend right s) := by
  simp only [prepend, Format.spec, Format.layers, Spec.join_eq_cat, Spec.cat_assoc]

/-- A format in front is its leaves in front. -/
theorem prepend_ofLeaves (t : Format f) (ls : List (Leaf f)) :
    prepend t (ofLeaves ls : Sized f n R) = ofLeaves (t.leaves ++ ls) := by
  induction t generalizing ls with
  | literal text => rfl
  | placeholder render => rfl
  | join left way right ihl ihr => rw [prepend_join, ihr, ihl, Format.leaves, List.append_assoc]

/-- Leaves that stand for the same do so after others. -/
theorem ofLeaves_append_congr {ls ms : List (Leaf f)} (h : (ofLeaves ls : Sized f n R) = ofLeaves ms)
    (front : List (Leaf f)) : (ofLeaves (front ++ ls) : Sized f n R) = ofLeaves (front ++ ms) := by
  induction front with
  | nil => exact h
  | cons l front ih => rw [List.cons_append, List.cons_append, ofLeaves, ofLeaves, ih]

/-- The empty literal in front adds nothing. -/
theorem ofLeaves_literal_empty (ls : List (Leaf f)) :
    (ofLeaves (.literal "" :: ls) : Sized f n R) = ofLeaves ls :=
  congrArg (mk _) (Spec.literal_empty_cat (ofLeaves ls : Sized f n R).spec)

/-- Two literals side by side are one. -/
theorem ofLeaves_literal_literal (a b : String) (ls : List (Leaf f)) :
    (ofLeaves (.literal a :: .literal b :: ls) : Sized f n R) = ofLeaves (.literal (a ++ b) :: ls) :=
  congrArg (mk _) (Spec.cat_assoc (Spec.literal a) (Spec.literal b) (ofLeaves ls : Sized f n R).spec).symm

end Sized

namespace Format

variable [Functor f]

/-- The specification of a format, with the length of its chain. -/
def sized (t : Format f) (n : Nat) (R : Type) : Sized f n R := ⟨t.layers n, t.spec n⟩

/-- A format stands for its leaves joined from the right. -/
theorem sized_eq_ofLeaves (t : Format f) : t.sized n R = Sized.ofLeaves t.leaves := by
  have h := Sized.prepend_ofLeaves (n := n) (R := R) t []
  rw [List.append_nil] at h
  rw [← h]
  simp only [sized, Sized.prepend, Sized.ofLeaves, Sized.empty, Spec.cat_literal_empty]

/-- Formats with the same leaves stand for the same specification. -/
theorem sized_eq_of_leaves_eq {t u : Format f} (h : t.leaves = u.leaves) : t.sized n R = u.sized n R := by
  rw [sized_eq_ofLeaves, sized_eq_ofLeaves, h]

/-- Running a format is running its leaves joined from the right. -/
theorem run_eq_ofLeaves (t : Format f) (k : String → Curried f n R) : t.run k = (Sized.ofLeaves t.leaves).run k :=
  congrArg (fun s => Sized.run s k) (sized_eq_ofLeaves t)

/-- Formats with the same leaves leave the same chain, whatever the callback. -/
theorem run_eq_of_leaves_eq {t u : Format f} (h : t.leaves = u.leaves) (k : String → Curried f n R) :
    t.run k = u.run k :=
  congrArg (fun s => Sized.run s k) (sized_eq_of_leaves_eq h)

end Format

end TypedFormat

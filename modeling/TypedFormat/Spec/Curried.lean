import TypedFormat.Value

/-!
# Chains of missing arguments

`Curried f n R` takes `n` values one by one and ends in an `R`; each value has the effect `f`. A `Callable` is such a
chain whose length is known when it is used: values are supplied to it until none is missing.
-/

namespace TypedFormat

/-- Functions of `n` values that end in an `R`, taken one value at a time. -/
def Curried (f : Type → Type) : Nat → Type → Type
  | 0, R => R
  | n + 1, R => Value → f (Curried f n R)

/-- A chain together with the number of values that it still takes. -/
structure Callable (f : Type → Type) (R : Type) where
  missing : Nat
  chain : Curried f missing R

namespace Callable

/-- A result that takes no more values. -/
def finished {f : Type → Type} {R : Type} (r : R) : Callable f R := ⟨0, r⟩

/-- The result of a chain that takes no more values. -/
def result? {f : Type → Type} {R : Type} : Callable f R → Option R
  | ⟨0, r⟩ => some r
  | ⟨_ + 1, _⟩ => none

/-- The chain after one more value, if it takes one. -/
def supply? {f : Type → Type} [Functor f] {R : Type} : Callable f R → Value → Option (f (Callable f R))
  | ⟨0, _⟩, _ => none
  | ⟨n + 1, chain⟩, v => some ((fun rest => ⟨n, rest⟩) <$> (show f (Curried f n R) from chain v))

@[simp] theorem result?_finished {f : Type → Type} {R : Type} (r : R) :
    (finished r : Callable f R).result? = some r := rfl

@[simp] theorem supply?_finished {f : Type → Type} [Functor f] {R : Type} (r : R) (v : Value) :
    (finished r : Callable f R).supply? v = none := rfl

end Callable

end TypedFormat

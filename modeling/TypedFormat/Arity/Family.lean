/-!
# Families of functions by arity

A family has one member for each number of arguments from its least arity on. Three families are known by name. No
member takes more than `maxArity` arguments, and `Family.check` refuses other bounds.
-/

namespace TypedFormat.Arity

/-- What the members of a family do with their arguments. -/
inductive Family where
  /-- Discharge a specification. -/
  | sprintf
  /-- Apply a chain of one-argument functions. -/
  | uncurry
  /-- Apply such a chain to a tuple. -/
  | tuple
  deriving DecidableEq, Repr

/-- The most arguments that a member of a family takes. -/
def maxArity : Nat := 16

/-- Why a greatest arity is refused. -/
inductive BoundError where
  /-- The family starts at a greater arity. -/
  | tooSmall (bound least : Nat)
  /-- The arity is above `maxArity`. -/
  | tooLarge (bound : Nat)
  deriving DecidableEq, Repr

/-- The wording of the refusal. -/
def BoundError.message : BoundError → String
  | .tooSmall bound least => s!"Arity {bound} is below the smallest arity of this family ({least})"
  | .tooLarge bound => s!"Arity {bound} exceeds the maximum supported arity ({maxArity})"

namespace Family

/-- The families. -/
def all : List Family := [.sprintf, .uncurry, .tuple]

/-- The name of the family. -/
def name : Family → String
  | .sprintf => "sprintf"
  | .uncurry => "uncurry"
  | .tuple => "tuple"

/-- The family of that name. -/
def ofName? (s : String) : Option Family := all.find? fun f => f.name == s

/-- The least arity of a member. -/
def least : Family → Nat
  | .sprintf => 1
  | .uncurry => 2
  | .tuple => 0

/-- The family has members up to the bound. -/
def check (f : Family) (bound : Nat) : Except BoundError Unit :=
  if bound < f.least then .error (.tooSmall bound f.least)
  else if maxArity < bound then .error (.tooLarge bound)
  else .ok ()

/-- The arities of the members up to the bound, from the least. -/
def arities (f : Family) (bound : Nat) : List Nat := List.range' f.least (bound + 1 - f.least)

/-- Reading the name of a family gives that family. -/
theorem ofName?_name (f : Family) : ofName? f.name = some f := by cases f <;> decide

/-- A family found under a name has that name. -/
theorem name_of_ofName? {s : String} {f : Family} (h : ofName? s = some f) : f.name = s := by
  have := List.find?_some h
  simpa using this

/-- A bound passes the check exactly when it lies between the least arity and `maxArity`. -/
theorem check_eq_ok_iff (f : Family) (bound : Nat) : f.check bound = .ok () ↔ f.least ≤ bound ∧ bound ≤ maxArity := by
  unfold check
  split
  · simp; omega
  · split <;> simp <;> omega

/-- The arities up to a bound are those between the least arity and the bound. -/
theorem mem_arities (f : Family) (bound n : Nat) : n ∈ f.arities bound ↔ f.least ≤ n ∧ n ≤ bound := by
  simp only [arities, List.mem_range'_1]
  omega

end Family

end TypedFormat.Arity

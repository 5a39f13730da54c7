import TypedFormat.Arity.Family

/-!
# The members of a family

A member is a function of a callee and so many arguments. It is declared with type parameters, with bounds that say how
the callee and the results of the calls can be applied, and with a body that applies the callee to the arguments one by
one.
-/

namespace TypedFormat.Arity

/-- A type variable of a member. Inputs and intermediate results are counted from one. -/
inductive TypeVar where
  | callee
  | input (i : Nat)
  | middle (i : Nat)
  | result
  deriving DecidableEq, Repr

namespace TypeVar

/-- The variable's name in code. -/
def name : TypeVar → String
  | callee => "F"
  | input i => s!"T{i}"
  | middle i => s!"R{i}"
  | result => "R"

end TypeVar

/-- The name of an argument in code; arguments are counted from one. -/
def argumentName (i : Nat) : String := s!"a{i}"

/-- A type in the declaration of a member. -/
inductive TypeTerm where
  | var (v : TypeVar)
  /-- The type of texts. -/
  | text
  /-- The type of functions from an input that can be stored and called again. -/
  | curried (input : TypeVar) (rest : TypeTerm)
  deriving DecidableEq, Repr

/-- The bound that a value of type `callee` can be applied to an `input` and gives an `output`. -/
structure Bound where
  callee : TypeVar
  input : TypeVar
  output : TypeVar
  deriving DecidableEq, Repr

/-- The body of a member: the callee applied to arguments. -/
inductive Call where
  | callee
  | apply (f : Call) (argument : Nat)
  deriving DecidableEq, Repr

/-- The declaration of a member. -/
structure Member where
  family : Family
  arity : Nat
  typeParams : List TypeVar
  /-- The type of the callee; a specification's is that of the chain it leaves. -/
  calleeType : TypeTerm
  /-- The arguments with their types. -/
  arguments : List (Nat × TypeVar)
  bounds : List Bound
  result : TypeTerm
  body : Call
  deriving DecidableEq, Repr

namespace Member

/-- The numbers from one to `n`. -/
def numbers (n : Nat) : List Nat := List.range' 1 n

/-- The types of `n` arguments. -/
def inputs (n : Nat) : List TypeVar := (numbers n).map .input

/-- The results of the calls before the last of `n`. -/
def middles (n : Nat) : List TypeVar := (numbers (n - 1)).map .middle

/-- The bounds of a chain that is now at the type `current` and takes the inputs in order. The call of index `i` gives
the intermediate result of that index, and the last call the result. -/
def chainBounds (middles : List TypeVar) (current : TypeVar) (i : Nat) : List TypeVar → List Bound
  | [] => []
  | input :: rest =>
    let next := middles[i]?.getD .result
    ⟨current, input, next⟩ :: chainBounds middles next (i + 1) rest

/-- The callee applied to the arguments one by one. -/
def applied (args : List Nat) : Call := args.foldl .apply .callee

/-- The member that discharges a specification with `n` arguments. -/
def sprintf (n : Nat) : Member where
  family := .sprintf
  arity := n
  typeParams := inputs n
  calleeType := (inputs n).reverse.foldl (fun rest input => .curried input rest) .text
  arguments := (numbers n).zip (inputs n)
  bounds := []
  result := .text
  body := applied (numbers n)

/-- The member that applies a chain of functions to `n` arguments. -/
def uncurry (n : Nat) : Member where
  family := .uncurry
  arity := n
  typeParams := .callee :: inputs n ++ middles n ++ [.result]
  calleeType := .var .callee
  arguments := (numbers n).zip (inputs n)
  bounds := chainBounds (middles n) .callee 0 (inputs n)
  result := .var .result
  body := applied (numbers n)

/-- The member that applies a chain of functions to a tuple of `n` arguments. With no arguments it gives the callee
back. -/
def tuple (n : Nat) : Member :=
  if n = 0 then
    { family := .tuple
      arity := 0
      typeParams := [.callee]
      calleeType := .var .callee
      arguments := []
      bounds := []
      result := .var .callee
      body := .callee }
  else
    { family := .tuple
      arity := n
      typeParams := .callee :: inputs n ++ middles n ++ [.result]
      calleeType := .var .callee
      arguments := (numbers n).zip (inputs n)
      bounds := chainBounds (middles n) .callee 0 (inputs n)
      result := .var .result
      body := applied (numbers n) }

end Member

namespace Family

/-- The member of the family that takes `n` arguments. -/
def member : Family → Nat → Member
  | .sprintf => Member.sprintf
  | .uncurry => Member.uncurry
  | .tuple => Member.tuple

/-- All members up to the bound, in order of their arity. -/
def members (f : Family) (bound : Nat) : List Member := (f.arities bound).map f.member

end Family

end TypedFormat.Arity

/-!
# Values and faults

The arguments that a discharge supplies, and what can stop it at one of them. A value carries its type; a placeholder
accepts the values of its own type only. The first fault met wins; the arguments after it are not looked at.
-/

namespace TypedFormat

/-- A type of integers: signed or not, and how many bits. -/
structure IntegerType where
  signed : Bool
  bits : Nat
  deriving DecidableEq, Repr

namespace IntegerType

/-- The least integer of the type. -/
def least (t : IntegerType) : Int := if t.signed then -(Nat.pow 2 (t.bits - 1) : Nat) else 0

/-- The greatest integer of the type. -/
def greatest (t : IntegerType) : Int := (Nat.pow 2 (if t.signed then t.bits - 1 else t.bits) : Nat) - 1

/-- The integer belongs to the type. -/
def holds (t : IntegerType) (i : Int) : Bool := t.least ≤ i && i ≤ t.greatest

/-- The integer of the type that the text writes: decimal digits after an optional sign; a minus only where the type is
signed. -/
def read? (t : IntegerType) (text : String) : Option Int := do
  let (negative, digits) :=
    match text.toList with
    | '-' :: cs => (true, cs)
    | '+' :: cs => (false, cs)
    | cs => (false, cs)
  guard (!digits.isEmpty && digits.all Char.isDigit && (!negative || t.signed))
  let n : Nat := digits.foldl (fun n c => 10 * n + (c.toNat - '0'.toNat)) 0
  let i : Int := if negative then -n else n
  guard (t.holds i)
  pure i

/-- The signed integers of 64 bits. -/
def int64 : IntegerType := ⟨true, 64⟩

end IntegerType

/-- An argument. The integers of 64 bits with a sign are the type `int`; those of other types are `sized`.
Floating-point numbers are given by their bits. -/
inductive Value where
  | bool (b : Bool)
  | int (i : Int)
  | float (bits : UInt64)
  | string (s : String)
  | list (items : List Value)
  | char (c : Char)
  | sized (type : IntegerType) (i : Int)
  | float32 (bits : UInt32)
  deriving Repr

/-- Why a discharge stopped. -/
inductive Fault where
  /-- The argument has another type than its placeholder. -/
  | typeMismatch
  /-- The renderer gave up on the argument, with a message. -/
  | panic (message : String)
  /-- An argument was supplied to something that takes none. -/
  | tooManyArguments
  /-- A finished text was required where arguments were still missing. -/
  | tooFewArguments
  deriving DecidableEq, Repr

end TypedFormat

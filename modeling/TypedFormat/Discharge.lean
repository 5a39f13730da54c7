import TypedFormat.Arity.Member
import TypedFormat.Spec.Format
import TypedFormat.Template.Expansion

/-!
# Discharging

To discharge a format is to supply its arguments. They can be supplied one by one to the chain that it leaves, or all
at once to a member of a family; the members' bodies say what they do with them. Arguments are supplied strictly in
order, and the first fault wins.
-/

namespace TypedFormat

open TypedFormat.Arity

/-- What stops a request. -/
inductive Problem where
  /-- No renderer has the name. -/
  | unknownRenderer
  /-- A template has no expansion. -/
  | template (e : Template.ExpansionError)
  /-- Nothing is stored under the name. -/
  | unbound
  /-- The family has no member of that arity. -/
  | noSuchArity
  | fault (f : Fault)
  deriving DecidableEq, Repr

/-- The answer to a request: a finished text or number, or a chain that takes more arguments. -/
inductive Result where
  | text (s : String)
  | number (n : Nat)
  | callable
  deriving DecidableEq, Repr

/-- A chain of arguments that can be faulty. -/
abbrev Chain (R : Type) := Callable (Except Fault) R

namespace Callable

/-- The chain after one more argument. -/
def supply {R : Type} (c : Chain R) (v : Value) : Except Fault (Chain R) :=
  (c.supply? v).getD (.error .tooManyArguments)

/-- The chain after more arguments, from left to right. -/
def supplyAll {R : Type} (c : Chain R) (vs : List Value) : Except Fault (Chain R) := vs.foldlM supply c

/-- The result of a chain that must take no more arguments. -/
def finish {R : Type} (c : Chain R) : Except Fault R := c.result?.elim (.error .tooFewArguments) .ok

/-- A chain that takes no more arguments refuses one. -/
@[simp] theorem supply_zero {R : Type} (r : R) (v : Value) :
    supply (⟨0, r⟩ : Chain R) v = .error .tooManyArguments := rfl

/-- A chain that takes more arguments is applied to the next one. -/
theorem supply_succ {R : Type} {n : Nat} (chain : Value → Except Fault (Curried (Except Fault) n R)) (v : Value) :
    supply (⟨n + 1, chain⟩ : Chain R) v = (chain v).map fun rest => ⟨n, rest⟩ := rfl

/-- Supplying nothing changes nothing. -/
@[simp] theorem supplyAll_nil {R : Type} (c : Chain R) : c.supplyAll [] = .ok c := rfl

/-- The first argument is supplied before the others. -/
theorem supplyAll_cons {R : Type} (c : Chain R) (v : Value) (vs : List Value) :
    c.supplyAll (v :: vs) = c.supply v >>= fun d => d.supplyAll vs := List.foldlM_cons

end Callable

/-- The body of a member at work: the callee is supplied with the arguments that the body names. -/
def Arity.Call.eval {R : Type} (callee : Chain R) (args : List Value) : Call → Except Fault (Chain R)
  | .callee => .ok callee
  | .apply f i => do
    let c ← f.eval callee args
    match args[i - 1]? with
    | some v => c.supply v
    | none => .error .tooFewArguments

/-- The ways of supplying arguments. -/
inductive Route where
  /-- One by one to the chain that a function or a method gives. -/
  | stepwise
  /-- All at once to the member of a family with that many arguments. -/
  | member (family : Family)
  deriving DecidableEq, Repr

namespace Route

/-- The greatest arity for which the families have members. -/
def greatest : Nat := 9

/-- The arguments supplied to a chain. -/
def apply {R : Type} (route : Route) (callee : Chain R) (args : List Value) : Except Problem (Chain R) :=
  match route with
  | .stepwise => (callee.supplyAll args).mapError .fault
  | .member family =>
    if args.length ∈ family.arities greatest then
      ((family.member args.length).body.eval callee args).mapError .fault
    else .error .noSuchArity

end Route

/-- The answer of a chain that ends in a text. -/
def textResult (c : Chain String) : Result := c.result?.elim .callable .text

/-- The arguments supplied to a format. A member must give a finished text; one by one, arguments may be left open. -/
def Format.discharge (t : Format (Except Fault)) (route : Route) (args : List Value) : Except Problem Result := do
  let c ← route.apply t.sprintf args
  match route with
  | .stepwise => pure (textResult c)
  | .member _ => (c.finish.mapError .fault).map .text

/-- A chain of `n` functions that joins the texts it is applied to, after those in `front`, by bars. -/
def joining : (n : Nat) → (front : List String) → Curried (Except Fault) n String
  | 0, front => "|".intercalate front
  | n + 1, front => fun v =>
    match v with
    | .string s => .ok (joining n (front ++ [s]))
    | _ => .error .typeMismatch

/-- A plain chain that joins `n` texts. Without arguments it is a text of its own. -/
def joiner (n : Nat) : Chain String := if n = 0 then .finished "callee" else ⟨n, joining n []⟩

/-- The texts joined by way of a member of a family. -/
def joinTexts (family : Family) (texts : List String) : Except Problem String := do
  let c ← (Route.member family).apply (joiner texts.length) (texts.map .string)
  c.finish.mapError .fault

end TypedFormat

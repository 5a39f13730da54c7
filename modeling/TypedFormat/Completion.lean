import TypedFormat.Discharge
import TypedFormat.Renderer

/-!
# Completion callbacks

A format can be run with a callback that turns the finished text into something else: another text, a number, or a
function of one more argument.
-/

namespace TypedFormat

/-- What a callback ends in. -/
inductive Outcome where
  | text (s : String)
  | number (n : Nat)
  deriving DecidableEq, Repr

/-- The callbacks. -/
inductive Completion where
  | identity
  | byteLength
  | charCount
  /-- The text between angle brackets. -/
  | wrap
  /-- A function that takes a text and puts it after the finished one. -/
  | append
  deriving DecidableEq, Repr

namespace Completion

/-- The number of arguments that the result of the callback takes. -/
def layers : Completion → Nat
  | append => 1
  | _ => 0

/-- The callback. -/
def apply : (k : Completion) → String → Curried (Except Fault) k.layers Outcome
  | identity, t => Outcome.text t
  | byteLength, t => Outcome.number t.utf8ByteSize
  | charCount, t => Outcome.number t.length
  | wrap, t => Outcome.text ("<" ++ t ++ ">")
  | append, t => fun v => (fun s => Outcome.text (t ++ s)) <$> v.string?

end Completion

/-- The format run with a callback. -/
def Format.complete (t : Format (Except Fault)) (k : Completion) : Chain Outcome := t.run k.apply

/-- The answer of a chain. -/
def outcomeResult (c : Chain Outcome) : Result :=
  match c.result? with
  | some (.text s) => .text s
  | some (.number n) => .number n
  | none => .callable

/-- The format run with a callback and then supplied with arguments one by one. -/
def Format.runWith (t : Format (Except Fault)) (k : Completion) (args : List Value) : Except Problem Result :=
  (((t.complete k).supplyAll args).mapError .fault).map outcomeResult

end TypedFormat

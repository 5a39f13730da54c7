import TypedFormat.Completion
import TypedFormat.Description

/-!
# Sessions

A session stores formats and chains under names, in two name spaces. A stored chain can be used again and again:
supplying arguments to it leaves it as it is. A step that fails stores nothing.
-/

namespace TypedFormat

/-- What is stored under names; a name stored again hides what was stored before. -/
abbrev Names (α : Type) := List (String × α)

/-- The formats and the chains stored so far. -/
structure Session where
  formats : Names (Format (Except Fault)) := []
  chains : Names (Chain Outcome) := []

/-- What a session can be asked to do. -/
inductive Step where
  /-- Store the format that is described. -/
  | define (name : String) (d : Description)
  /-- Run a format with a callback and store the chain. -/
  | run (format : String) (k : Completion) (name : Option String)
  /-- Supply arguments to a chain, and store the chain that is left if a name is given. -/
  | apply (chain : String) (args : List Value) (name : Option String)
  /-- Discharge a format. -/
  | discharge (format : String) (route : Route) (args : List Value)

/-- The answer to a step. -/
inductive Reply where
  /-- A format was stored, which shows itself so. -/
  | stored (text : String)
  | result (r : Result)
  | problem (p : Problem)
  deriving DecidableEq, Repr

namespace Session

/-- The format of that name. -/
def format (s : Session) (name : String) : Except Problem (Format (Except Fault)) :=
  (s.formats.lookup name).elim (.error .unbound) .ok

/-- The chain of that name. -/
def chain (s : Session) (name : String) : Except Problem (Chain Outcome) :=
  (s.chains.lookup name).elim (.error .unbound) .ok

/-- The session with a format stored. -/
def storeFormat (s : Session) (name : String) (t : Format (Except Fault)) : Session :=
  { s with formats := (name, t) :: s.formats }

/-- The session with a chain stored, if there is a name for it. -/
def storeChain (s : Session) (name : Option String) (c : Chain Outcome) : Session :=
  match name with
  | some n => { s with chains := (n, c) :: s.chains }
  | none => s

/-- The session after a step that succeeds, and the answer. -/
def perform (s : Session) : Step → Except Problem (Session × Reply)
  | .define name d => do
    let t ← d.build fun n => s.formats.lookup n
    pure (s.storeFormat name t, .stored Spec.debugText)
  | .run format k name => do
    let c := (← s.format format).complete k
    pure (s.storeChain name c, .result (outcomeResult c))
  | .apply chain args name => do
    let c ← s.chain chain
    let d ← (c.supplyAll args).mapError .fault
    pure (s.storeChain name d, .result (outcomeResult d))
  | .discharge format route args => do
    let r ← (← s.format format).discharge route args
    pure (s, .result r)

/-- The session after a step, and the answer. A problem leaves the session as it was. -/
def step (s : Session) (x : Step) : Session × Reply :=
  match s.perform x with
  | .ok r => r
  | .error p => (s, .problem p)

/-- The session after all the steps, and their answers. -/
def steps (s : Session) : List Step → Session × List Reply
  | [] => (s, [])
  | x :: xs =>
    let (s, r) := s.step x
    let (s, rs) := s.steps xs
    (s, r :: rs)

end Session

end TypedFormat

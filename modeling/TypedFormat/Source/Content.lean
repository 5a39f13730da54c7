import TypedFormat.Source.Parser

/-!
# Contents of groups

A parser of what stands between two brackets may ask whether its input has ended, see commas ahead and try a parser
without failing. Every `Parser` is one.
-/

namespace TypedFormat.Source.Content

/-- Reads nothing. -/
protected def pure {α : Type} (a : α) : Content α := ⟨fun _ ts => .ok ⟨a, [], none, ts⟩⟩

/-- One parser and then another, which may depend on what the first one gave. -/
protected def bind {α β : Type} (p : Content α) (f : α → Content β) : Content β :=
  ⟨fun stop ts =>
    match p.run stop ts with
    | .error e => .error e
    | .ok r =>
      match (f r.value).run stop r.rest with
      | .error e => .error e
      | .ok s => .ok (r.after s)⟩

instance : Monad Content where
  pure := Content.pure
  bind := Content.bind

instance : MonadLift Parser Content := ⟨fun p => ⟨p.run⟩⟩

/-- The trees ahead, commas among them. -/
def ahead : Content Ahead := ⟨fun _ ts => .ok ⟨⟨ts⟩, [], none, ts⟩⟩

/-- The group has ended. -/
def atEnd : Content Bool := do pure (← ahead).isEmpty

/-- Reads a comma if it is next. -/
def comma? : Content Bool := do
  if (← ahead).sign "," then
    Parser.operator ","
    pure true
  else pure false

/-- Fails at the next tree. -/
def fail {α : Type} (fault : SyntaxFault) : Content α := ⟨fun stop ts => .error (.here fault stop ts)⟩

/-- Fails at a place further ahead. -/
def failAhead {α : Type} (fault : SyntaxFault) (a : Ahead) : Content α :=
  ⟨fun stop _ => .error (.here fault stop a.trees)⟩

/-- What is ahead after `p`, which is not read yet. -/
def peekAfter {α : Type} (p : Content α) : Content (α × Ahead) :=
  ⟨fun stop ts => (p.run stop ts).map fun r => ⟨(r.value, ⟨r.rest⟩), [], none, ts⟩⟩

/-- Reads what `p` reads, or nothing where `p` fails. -/
def attempt {α : Type} (p : Content α) : Content (Option α) :=
  ⟨fun stop ts =>
    match p.run stop ts with
    | .ok r => .ok ⟨some r.value, r.written, r.stray, r.rest⟩
    | .error _ => .ok ⟨none, [], none, ts⟩⟩

/-- Writes nothing, and gives what `p` would have written. -/
def captured {α : Type} (p : Content α) : Content (α × List Piece) :=
  ⟨fun stop ts => (p.run stop ts).map fun r => ⟨(r.value, r.written), [], r.stray, r.rest⟩⟩

/-- Writes the trees as they stand in the source if the value passes the test. -/
def asWrittenIf {α : Type} (test : α → Bool) (p : Content α) : Content α :=
  ⟨fun stop ts => (p.run stop ts).map fun r =>
    if test r.value then { r with written := Tree.allPieces (Parser.consumed ts r.rest) } else r⟩

/-- Repeats a parser for as long as it gives a new state. -/
def iterate {σ τ : Type} (step : σ → Content (σ ⊕ τ)) : Nat → σ → Content τ
  | 0, _ => fail .tooDeep
  | n + 1, s => do
    match ← step s with
    | .inl s => iterate step n s
    | .inr t => pure t

/-- Repeats a parser until it gives a result. -/
def loop {σ τ : Type} (s : σ) (step : σ → Content (σ ⊕ τ)) : Content τ := iterate step stepLimit s

/-- Items up to the end. -/
def many (item : Content Unit) : Content Unit :=
  loop () fun () => do
    if ← atEnd then pure (.inr ())
    else
      item
      pure (.inl ())

/-- Items up to the end with a comma between any two; one more comma may follow the last. -/
def terminated (item : Content Unit) : Content Unit :=
  many do
    item
    if !(← atEnd) then Parser.operator ","

end TypedFormat.Source.Content

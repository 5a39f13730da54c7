import TypedFormat.Source.Ahead
import TypedFormat.Source.SyntaxError

/-!
# Parsers

A parser reads trees and writes the pieces of text that they come to. A parser of this library cannot tell a comma from
the end of its input except by reading it. So what it reads from a whole input it reads in the same way when a comma
follows (`Parser.beforeComma`), and what it reads from an input up to a comma it reads when the input ends there
(`Parser.untilComma`). It leaves a suffix of its input (`Parser.suffix`). These laws are part of the type: every way of
building parsers keeps them.

What stands between brackets is read by a `Content` parser, which is under no law. A tree that is left over at the end of
a group does not stop the reading: the first such tree is kept as the `Stray` of the whole.
-/

namespace TypedFormat.Source

/-! ## Readings -/

/-- A tree out of place: where it stands, and in what brackets. -/
structure Stray where
  span : Span
  within : Delimiter
  deriving DecidableEq, Repr

/-- The error that a tree out of place is. -/
def Stray.error (s : Stray) : SyntaxError := ⟨.stray (some s.within), s.span, false⟩

/-- What reading gives: a value, the pieces written, the first tree out of place and the rest of the input. -/
structure Reading (α : Type) where
  value : α
  written : List Piece
  stray : Option Stray
  rest : List Tree

namespace Reading

/-- The reading before which another one was made. -/
def after {α β : Type} (first : Reading α) (second : Reading β) : Reading β :=
  { second with written := first.written ++ second.written, stray := first.stray.or second.stray }

/-- The reading with more trees after its rest. -/
def extend {α : Type} (r : Reading α) (more : List Tree) : Reading α := { r with rest := r.rest ++ more }

end Reading

/-! ## Parsers -/

/-- A parser of the trees between two brackets. `stop` is where they end. -/
structure Content (α : Type) where
  run : (stop : Span) → List Tree → Except SyntaxError (Reading α)

/-- A parser that cannot tell a comma from the end of its input. -/
structure Parser (α : Type) where
  run : (stop : Span) → List Tree → Except SyntaxError (Reading α)
  suffix : ∀ {stop : Span} {ts : List Tree} {r : Reading α}, run stop ts = .ok r → r.rest <:+ ts
  beforeComma : ∀ {stop : Span} {ts : List Tree} {r : Reading α}, run stop ts = .ok r →
    ∀ {c : Tree}, c.isComma = true → ∀ more : List Tree, run stop (ts ++ c :: more) = .ok (r.extend (c :: more))
  untilComma : ∀ {stop : Span} {ts rest more : List Tree} {c : Tree} {r : Reading α}, c.isComma = true →
    run stop (ts ++ c :: more) = .ok r → r.rest = rest ++ c :: more → run stop ts = .ok { r with rest }

/-- The most steps that a repetition or a nesting of parsers takes. -/
def stepLimit : Nat := 1000000

namespace Parser

/-! ## Sequence -/

/-- Reads nothing. -/
protected def pure {α : Type} (a : α) : Parser α where
  run _ ts := .ok ⟨a, [], none, ts⟩
  suffix h := by
    cases h
    exact List.suffix_refl _
  beforeComma h _ _ _ := by
    cases h
    rfl
  untilComma _ h hr := by
    cases h
    rw [List.append_cancel_right hr]

/-- One parser and then another, which may depend on what the first one gave. -/
protected def bind {α β : Type} (p : Parser α) (f : α → Parser β) : Parser β where
  run stop ts :=
    match p.run stop ts with
    | .error e => .error e
    | .ok r =>
      match (f r.value).run stop r.rest with
      | .error e => .error e
      | .ok s => .ok (r.after s)
  suffix h := by
    split at h
    · cases h
    · next r hr =>
      split at h
      · cases h
      · next s hs =>
        cases h
        exact ((f r.value).suffix hs).trans (p.suffix hr)
  beforeComma h _ hc more := by
    split at h
    · cases h
    · next r hr =>
      split at h
      · cases h
      · next s hs =>
        cases h
        rw [p.beforeComma hr hc more]
        simp only [Reading.extend]
        rw [(f r.value).beforeComma hs hc more]
        rfl
  untilComma {stop ts rest more c _} hc h hrest := by
    split at h
    · cases h
    · next r hr =>
      split at h
      · cases h
      · next s hs =>
        cases h
        have hlast : s.rest = rest ++ c :: more := hrest
        obtain ⟨front, hfront⟩ := (f r.value).suffix hs
        have hmiddle : r.rest = (front ++ rest) ++ c :: more := by
          rw [← hfront, hlast, List.append_assoc]
        rw [p.untilComma hc hr hmiddle]
        simp only
        rw [(f r.value).untilComma hc (hmiddle ▸ hs) hlast]
        rfl

instance : Monad Parser where
  pure := Parser.pure
  bind := Parser.bind

/-- Fails with a fault at a given place. -/
def failAt {α : Type} (fault : SyntaxFault) (span : Span) : Parser α where
  run _ _ := .error ⟨fault, span, false⟩
  suffix h := by cases h
  beforeComma h := by cases h
  untilComma _ h := by cases h

/-- Fails at the next tree. -/
def fail {α : Type} (fault : SyntaxFault) : Parser α where
  run stop ts := .error (.here fault stop ts)
  suffix h := by cases h
  beforeComma h := by cases h
  untilComma _ h := by cases h

/-- Repeats a parser for as long as it gives a new state. -/
def iterate {σ τ : Type} (step : σ → Parser (σ ⊕ τ)) : Nat → σ → Parser τ
  | 0, _ => fail .tooDeep
  | n + 1, s => do
    match ← step s with
    | .inl s => iterate step n s
    | .inr t => pure t

/-- Repeats a parser until it gives a result. -/
def loop {σ τ : Type} (s : σ) (step : σ → Parser (σ ⊕ τ)) : Parser τ := iterate step stepLimit s

/-! ## Looking ahead -/

/-- What can be seen of the next trees: those before the next comma. -/
def ahead : Parser Ahead where
  run _ ts := .ok ⟨⟨Ahead.upToComma 8 ts⟩, [], none, ts⟩
  suffix h := by
    cases h
    exact List.suffix_refl _
  beforeComma h _ hc more := by
    cases h
    simp [Ahead.upToComma_append hc, Reading.extend]
  untilComma hc h hr := by
    cases h
    rw [Ahead.upToComma_append hc, List.append_cancel_right hr]

/-! ## Writing -/

/-- Writes pieces. -/
def writePieces (pieces : List Piece) : Parser Unit where
  run _ ts := .ok ⟨(), pieces, none, ts⟩
  suffix h := by
    cases h
    exact List.suffix_refl _
  beforeComma h _ _ _ := by
    cases h
    rfl
  untilComma _ h hr := by
    cases h
    rw [List.append_cancel_right hr]

/-- Writes a piece of text. -/
def write (text : String) : Parser Unit := writePieces [⟨text, false⟩]

/-- Writes nothing, and gives what `p` would have written. -/
def captured {α : Type} (p : Parser α) : Parser (α × List Piece) where
  run stop ts := (p.run stop ts).map fun r => ⟨(r.value, r.written), [], r.stray, r.rest⟩
  suffix {stop ts _} h := by
    cases hr : p.run stop ts with
    | error e => rw [hr] at h; cases h
    | ok r =>
      rw [hr] at h
      cases h
      exact p.suffix hr
  beforeComma {stop ts _} h _ hc more := by
    cases hr : p.run stop ts with
    | error e => rw [hr] at h; cases h
    | ok r =>
      rw [hr] at h
      cases h
      rw [p.beforeComma hr hc more]
      rfl
  untilComma {stop ts rest more c _} hc h hrest := by
    cases hr : p.run stop (ts ++ c :: more) with
    | error e => rw [hr] at h; cases h
    | ok r =>
      rw [hr] at h
      cases h
      rw [p.untilComma hc hr hrest]
      rfl

/-- Writes nothing. -/
def silent {α : Type} (p : Parser α) : Parser α := do
  let (a, _) ← p.captured
  pure a

/-- The trees of `ts` that were read when `rest` is left. -/
def consumed (ts rest : List Tree) : List Tree := ts.take (ts.length - rest.length)

theorem consumed_append (ts rest more : List Tree) (h : rest <:+ ts) :
    consumed (ts ++ more) (rest ++ more) = consumed ts rest := by
  have hle := h.length_le
  have hlen : (ts ++ more).length - (rest ++ more).length = ts.length - rest.length := by
    simp only [List.length_append]
    omega
  rw [consumed, hlen, List.take_append_of_le_length (Nat.sub_le _ _), consumed]

/-- Gives the trees that `p` read along with its value. -/
def withTrees {α : Type} (p : Parser α) : Parser (α × List Tree) where
  run stop ts := (p.run stop ts).map fun r => ⟨(r.value, consumed ts r.rest), r.written, r.stray, r.rest⟩
  suffix {stop ts _} h := by
    cases hr : p.run stop ts with
    | error e => rw [hr] at h; cases h
    | ok r =>
      rw [hr] at h
      cases h
      exact p.suffix hr
  beforeComma {stop ts _} h c hc more := by
    cases hr : p.run stop ts with
    | error e => rw [hr] at h; cases h
    | ok r =>
      rw [hr] at h
      cases h
      rw [p.beforeComma hr hc more]
      simp [Except.map, Reading.extend, consumed_append ts r.rest (c :: more) (p.suffix hr)]
  untilComma {stop ts rest more c _} hc h hrest := by
    cases hr : p.run stop (ts ++ c :: more) with
    | error e => rw [hr] at h; cases h
    | ok r =>
      rw [hr] at h
      cases h
      have hcut := p.untilComma hc hr hrest
      have hsuffix : rest <:+ ts := p.suffix hcut
      rw [hcut]
      simp only [Except.map] at hrest ⊢
      rw [hrest, consumed_append ts rest (c :: more) hsuffix]

/-- Writes the trees as they stand in the source if the value passes the test. -/
def asWrittenIf {α : Type} (test : α → Bool) (p : Parser α) : Parser α := do
  let ((a, pieces), trees) ← p.captured.withTrees
  writePieces (if test a then Tree.allPieces trees else pieces)
  pure a

/-! ## Single trees -/

/-- What a tree is taken for: a value, what is written, and the first tree in it that is out of place. -/
structure Taken (α : Type) where
  value : α
  written : List Piece
  stray : Option Stray

/-- What is read where the next tree is taken. `missing` is the fault where there is none. -/
def takeFirst {α : Type} (missing : SyntaxFault) (take : Tree → Except SyntaxError (Taken α)) (stop : Span) :
    List Tree → Except SyntaxError (Reading α)
  | [] => .error (.here missing stop [])
  | t :: rest =>
    match take t with
    | .error e => .error e
    | .ok x => .ok ⟨x.value, x.written, x.stray, rest⟩

/-- A tree was taken where something was read. -/
theorem takeFirst_eq_ok {α : Type} {missing : SyntaxFault} {take : Tree → Except SyntaxError (Taken α)} {stop : Span}
    {ts : List Tree} {r : Reading α} (h : takeFirst missing take stop ts = .ok r) :
    ∃ (t : Tree) (x : Taken α), take t = .ok x ∧ ts = t :: r.rest ∧ r = ⟨x.value, x.written, x.stray, r.rest⟩ := by
  cases ts with
  | nil => cases h
  | cons t rest =>
    rw [takeFirst] at h
    split at h
    · cases h
    · next x hx =>
      cases h
      exact ⟨t, x, hx, rfl, rfl⟩

/-- The next tree is taken whatever follows it. -/
theorem takeFirst_cons {α : Type} {take : Tree → Except SyntaxError (Taken α)} {t : Tree} {x : Taken α}
    (h : take t = .ok x) (missing : SyntaxFault) (stop : Span) (rest : List Tree) :
    takeFirst missing take stop (t :: rest) = .ok ⟨x.value, x.written, x.stray, rest⟩ := by
  rw [takeFirst, h]

/-- The next tree. `missing` is the fault where there is none. -/
def tree {α : Type} (missing : SyntaxFault) (take : Tree → Except SyntaxError (Taken α)) : Parser α where
  run := takeFirst missing take
  suffix h := by
    obtain ⟨t, x, _, rfl, _⟩ := takeFirst_eq_ok h
    exact List.suffix_cons _ _
  beforeComma {stop ts r} h _ _ more := by
    obtain ⟨t, x, hx, rfl, hr⟩ := takeFirst_eq_ok h
    rw [List.cons_append, takeFirst_cons hx, hr]
    rfl
  untilComma {stop ts rest more c r} _ h hrest := by
    obtain ⟨t, x, hx, hts, hr⟩ := takeFirst_eq_ok h
    rw [hrest] at hts
    cases ts with
    | nil =>
      exfalso
      have hlength : (c :: more).length = (t :: (rest ++ c :: more)).length := congrArg List.length hts
      rw [List.length_cons, List.length_cons, List.length_append, List.length_cons] at hlength
      omega
    | cons u tail =>
      rw [List.cons_append] at hts
      injection hts with hu htail
      rw [hu, List.append_cancel_right htail, takeFirst_cons hx, hr]

/-- The next token, if it passes the test; it is written. -/
def token (fault : SyntaxFault) (test : Token → Bool) : Parser Token :=
  tree fault fun t =>
    match t with
    | .leaf t => if test t then .ok ⟨t, [⟨t.text, false⟩], none⟩ else .error ⟨fault, t.blamed, false⟩
    | .group _ opening _ _ => .error ⟨fault, opening, false⟩

/-- A comma. `missing` is the fault where the input has ended. -/
def comma (missing : SyntaxFault) : Parser Unit :=
  tree missing fun t =>
    if t.isComma then .ok ⟨(), [⟨",", false⟩], none⟩ else .error ⟨.operator ",", t.blamed, false⟩

/-- A group in such brackets, with its content; it is written in its brackets. -/
def group {α : Type} (d : Delimiter) (content : Content α) : Parser α :=
  tree (.expected [.group d]) fun t =>
    match t with
    | .group d' opening closing inner =>
      if d' = d then do
        let r ← content.run closing inner
        let left := r.rest.head?.map fun t => ⟨t.place, d⟩
        pure ⟨r.value, ⟨d.opening, false⟩ :: r.written ++ [⟨d.closing, false⟩], r.stray.or left⟩
      else .error ⟨.expected [.group d], opening, false⟩
    | .leaf t => .error ⟨.expected [.group d], t.blamed, false⟩

/-- A group in any brackets, as it stands in the source. -/
def rawGroup : Parser Delimiter :=
  tree .delimiter fun t =>
    match t with
    | .group d opening closing inner => .ok ⟨d, (Tree.group d opening closing inner).pieces, none⟩
    | .leaf t => .error ⟨.delimiter, t.blamed, false⟩

/-- This operator; it is written as one piece. -/
def operator (text : String) : Parser Unit where
  run stop ts :=
    match Ahead.dropOperator text.toList ts with
    | some rest => .ok ⟨(), [⟨text, false⟩], none, rest⟩
    | none => .error (.here (.operator text) stop ts)
  suffix h := by
    split at h
    · next hd =>
      cases h
      exact Ahead.dropOperator_suffix hd
    · cases h
  beforeComma h c _ more := by
    split at h
    · next hd =>
      cases h
      rw [Ahead.dropOperator_append hd (c :: more)]
      rfl
    · cases h
  untilComma _ h hrest := by
    split at h
    · next hd =>
      cases h
      rw [Ahead.dropOperator_untilComma (hd.trans (congrArg some hrest))]
    · cases h

/-! ## Words -/

/-- This keyword. -/
def keyword (text : String) : Parser Unit := do
  let _ ← token (.expected [.sign text]) fun t => t.isWord text

/-- Any word. -/
def anyWord : Parser Unit := do
  let _ ← token (.expected [.identifier]) fun t => t.kind == .word

/-- A word that is no keyword. -/
def identifier : Parser Unit := do
  match (← ahead).token? with
  | some t =>
    if t.kind = .word ∧ t.isIdentifier = false then fail (.keyword t.text)
    else
      let _ ← token (.expected [.identifier]) Token.isIdentifier
  | none => fail (.expected [.identifier])

/-- A lifetime, with its place. -/
def lifetime : Parser Span := do
  let t ← token (.expected [.lifetime]) fun t => t.kind == .lifetime
  pure t.span

/-- A literal; a minus sign before a number belongs to it. -/
def literal : Parser Unit := do
  if (← ahead).sign "-" then operator "-"
  let _ ← token (.expected [.literal]) Token.isLiteral

/-- Reads the operator if it is next. -/
def operator? (text : String) : Parser Bool := do
  if (← ahead).sign text then
    operator text
    pure true
  else pure false

/-- Reads the keyword if it is next. -/
def keyword? (text : String) : Parser Bool := do
  if (← ahead).word text then
    keyword text
    pure true
  else pure false

/-- Repeats a parser while the trees ahead pass the test. -/
def whileAhead (test : Ahead → Bool) (p : Parser Unit) : Parser Unit :=
  loop () fun () => do
    if test (← ahead) then
      p
      pure (.inl ())
    else pure (.inr ())

end Parser

end TypedFormat.Source

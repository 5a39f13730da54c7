import TypedFormat.Text.Scan

/-!
# Raw tokens of a template

The grammar of templates is `token*` with four kinds of token: a doubled opening brace, a doubled closing brace, a name
between braces (the name may be empty), and a run of characters other than braces. `Raw.read` reads as many tokens as
it can, taking the kinds in that order at every point; where it stops, the rest is empty or starts with a brace out of
place.
-/

namespace TypedFormat.Template

open TypedFormat.Text

/-- The characters of a placeholder's name: ASCII letters, ASCII digits and the underscore. -/
def isNameChar (c : Char) : Bool := c.isAlphanum || c == '_'

/-- The characters that stand for themselves: all but the two braces. -/
def isPlainChar (c : Char) : Bool := c != '{' && c != '}'

/-- A token as it is read, before texts are merged and names looked up. -/
inductive Raw where
  | text (run : List Char)
  | placeholder (name : List Char)
  deriving DecidableEq, Repr

namespace Raw

/-- A doubled brace is the text of one brace. -/
def escapedBrace : Scanner Raw
  | '{' :: '{' :: rest => some (.text ['{'], rest)
  | '}' :: '}' :: rest => some (.text ['}'], rest)
  | _ => none

/-- An opening brace, the longest run of name characters and a closing brace. -/
def bracedName : Scanner Raw
  | '{' :: rest =>
    match rest.dropWhile isNameChar with
    | '}' :: after => some (.placeholder (rest.takeWhile isNameChar), after)
    | _ => none
  | _ => none

/-- The longest run of plain characters, if it is not empty. -/
def plainRun : Scanner Raw := fun cs =>
  match cs.takeWhile isPlainChar with
  | [] => none
  | c :: run => some (.text (c :: run), cs.dropWhile isPlainChar)

/-- One token: the first of the three scanners that applies. -/
def one : Scanner Raw := (escapedBrace.orElse bracedName).orElse plainRun

/-- The tokens at the front of the characters, as many as can be read, and the rest. -/
def read (cs : List Char) : Except Stalled (List Raw × List Char) := Scanner.many one cs

/-! ## Every scanner consumes a character -/

theorem escapedBrace_progressing : Scanner.Progressing escapedBrace := by
  intro cs a rest h
  unfold escapedBrace at h
  split at h <;> simp only [Option.some.injEq, Prod.mk.injEq, reduceCtorEq] at h <;> obtain ⟨-, rfl⟩ := h <;>
    simp only [List.length_cons] <;> omega

theorem bracedName_progressing : Scanner.Progressing bracedName := by
  intro cs a rest h
  unfold bracedName at h
  split at h
  · next tail =>
    split at h
    · next after hd =>
      have hle : (tail.dropWhile isNameChar).length ≤ tail.length := (List.dropWhile_suffix _).length_le
      rw [hd] at hle
      simp only [Option.some.injEq, Prod.mk.injEq] at h
      obtain ⟨-, rfl⟩ := h
      simp only [List.length_cons] at hle ⊢
      omega
    · cases h
  · cases h

theorem plainRun_progressing : Scanner.Progressing plainRun := by
  intro cs a rest h
  unfold plainRun at h
  split at h
  · cases h
  · next c run hr =>
    have hsplit : (cs.takeWhile isPlainChar).length + (cs.dropWhile isPlainChar).length = cs.length := by
      rw [← List.length_append, List.takeWhile_append_dropWhile]
    rw [hr, List.length_cons] at hsplit
    simp only [Option.some.injEq, Prod.mk.injEq] at h
    obtain ⟨-, rfl⟩ := h
    omega

theorem one_progressing : Scanner.Progressing one :=
  (escapedBrace_progressing.orElse bracedName_progressing).orElse plainRun_progressing

/-- Reading never stalls. -/
theorem read_ok (cs : List Char) : ∃ r, read cs = .ok r := Scanner.many_ok one_progressing cs

end Raw

end TypedFormat.Template

import TypedFormat.Source.Token

/-!
# Looking ahead

What can be seen of the trees that are not read yet. Tests on them name what is first; `Ahead.skip` shows what is
behind it. Operators are told by their characters, so one that is longer starts with those that are shorter. Main
statements: dropping an operator leaves a suffix (`Ahead.dropOperator_suffix`), and what follows the rest does not
matter to it (`Ahead.dropOperator_append`, `Ahead.dropOperator_untilComma`).
-/

namespace TypedFormat.Source

/-- What can be seen of the trees ahead. -/
structure Ahead where
  trees : List Tree
  deriving Repr

namespace Ahead

/-- What can be seen behind the first tree. -/
def skip (a : Ahead) : Ahead := ⟨a.trees.drop 1⟩

/-- What can be seen in the group ahead. -/
def inside (a : Ahead) : Ahead :=
  match a.trees with
  | .group _ _ _ inner :: _ => ⟨inner⟩
  | _ => ⟨[]⟩

/-- Nothing can be seen. -/
def isEmpty (a : Ahead) : Bool := a.trees.isEmpty

/-- What is left of the trees after the characters of an operator, each joint with the next. -/
def dropOperator : List Char → List Tree → Option (List Tree)
  | [], ts => some ts
  | [c], .leaf t :: ts => if t.isOperator c.toString then some ts else none
  | c :: cs, .leaf t :: ts => if t.isOperator c.toString && t.joint then dropOperator cs ts else none
  | _, _ => none

/-- The trees start with the characters of this operator; more may follow. -/
def sign (a : Ahead) (text : String) : Bool := (dropOperator text.toList a.trees).isSome

/-- The first tree, if it is a token. -/
def token? (a : Ahead) : Option Token := a.trees.head?.bind Tree.token?

/-- The first token is this word. -/
def word (a : Ahead) (text : String) : Bool := a.token?.any fun t => t.isWord text

/-- The first token is one of these words. -/
def wordIn (a : Ahead) (texts : List String) : Bool := texts.any a.word

/-- What can be seen behind this word, if it is first. -/
def skipWord (a : Ahead) (text : String) : Ahead := if a.word text then a.skip else a

/-- The first token is a word. -/
def anyWord (a : Ahead) : Bool := a.token?.any fun t => t.kind == .word

/-- The first token is an identifier. -/
def identifier (a : Ahead) : Bool := a.token?.any Token.isIdentifier

/-- The first token is a lifetime. -/
def lifetime (a : Ahead) : Bool := a.token?.any fun t => t.kind == .lifetime

/-- The first token is a string literal. -/
def string (a : Ahead) : Bool := a.token?.any fun t => t.kind == .string

/-- The first token is a number. -/
def number (a : Ahead) : Bool := a.token?.any fun t => t.kind == .number

/-- A literal is ahead; a minus sign before a number belongs to it. -/
def literal (a : Ahead) : Bool := a.token?.any Token.isLiteral || (a.sign "-" && a.skip.number)

/-- The first tree is a group in such brackets. -/
def group (a : Ahead) (d : Delimiter) : Bool := a.trees.head?.any fun t => t.isGroup d

/-- The first tree is a group. -/
def anyGroup (a : Ahead) : Bool := a.group .parenthesis || a.group .bracket || a.group .brace

/-- The first `n` trees before the first comma. -/
def upToComma : Nat → List Tree → List Tree
  | 0, _ => []
  | _, [] => []
  | n + 1, t :: ts => if t.isComma then [] else t :: upToComma n ts

/-- A comma hides what is behind it as the end of the input does. -/
theorem upToComma_append {c : Tree} (hc : c.isComma = true) (more : List Tree) (n : Nat) (ts : List Tree) :
    upToComma n (ts ++ c :: more) = upToComma n ts := by
  induction ts generalizing n with
  | nil => cases n <;> simp [upToComma, hc]
  | cons t ts ih => cases n <;> simp [upToComma, ih]

/-- Dropping an operator leaves a suffix. -/
theorem dropOperator_suffix {cs : List Char} {ts rest : List Tree} (h : dropOperator cs ts = some rest) :
    rest <:+ ts := by
  induction cs generalizing ts with
  | nil =>
    cases h
    exact List.suffix_refl _
  | cons c cs ih =>
    cases ts with
    | nil => cases cs <;> cases h
    | cons t ts =>
      cases t with
      | group d o e inner => cases cs <;> cases h
      | leaf t =>
        cases cs with
        | nil =>
          simp only [dropOperator, Option.ite_none_right_eq_some, Option.some.injEq] at h
          exact h.2 ▸ List.suffix_cons _ _
        | cons d cs =>
          simp only [dropOperator, Option.ite_none_right_eq_some] at h
          exact (ih h.2).trans (List.suffix_cons _ _)

/-- An operator is dropped in the same way when more trees follow. -/
theorem dropOperator_append {cs : List Char} {ts rest : List Tree} (h : dropOperator cs ts = some rest)
    (more : List Tree) : dropOperator cs (ts ++ more) = some (rest ++ more) := by
  induction cs generalizing ts with
  | nil =>
    cases h
    simp [dropOperator]
  | cons c cs ih =>
    cases ts with
    | nil => cases cs <;> cases h
    | cons t ts =>
      cases t with
      | group d o e inner => cases cs <;> cases h
      | leaf t =>
        cases cs with
        | nil =>
          simp only [dropOperator, Option.ite_none_right_eq_some, Option.some.injEq] at h
          simp only [List.cons_append, dropOperator, h.1, if_true, h.2]
        | cons d cs =>
          simp only [dropOperator, Option.ite_none_right_eq_some] at h
          simp only [List.cons_append, dropOperator, h.1, if_true]
          exact ih h.2

/-- An operator that is dropped before a comma is dropped when the trees end there. -/
theorem dropOperator_untilComma {cs : List Char} {ts rest more : List Tree} {c : Tree}
    (h : dropOperator cs (ts ++ c :: more) = some (rest ++ c :: more)) : dropOperator cs ts = some rest := by
  induction cs generalizing ts with
  | nil =>
    simp only [dropOperator, Option.some.injEq, List.append_cancel_right_eq] at h ⊢
    exact h
  | cons d cs ih =>
    cases ts with
    | nil =>
      exfalso
      have hle : (rest ++ c :: more).length ≤ more.length := by
        cases c with
        | group d o e inner => cases cs <;> cases h
        | leaf t =>
          cases cs with
          | nil =>
            simp only [List.nil_append, dropOperator, Option.ite_none_right_eq_some, Option.some.injEq] at h
            exact Nat.le_of_eq (congrArg List.length h.2.symm)
          | cons e cs =>
            simp only [List.nil_append, dropOperator, Option.ite_none_right_eq_some] at h
            exact (dropOperator_suffix h.2).length_le
      simp only [List.length_append, List.length_cons] at hle
      omega
    | cons t ts =>
      cases t with
      | group d o e inner => cases cs <;> cases h
      | leaf t =>
        cases cs with
        | nil =>
          simp only [List.cons_append, dropOperator, Option.ite_none_right_eq_some, Option.some.injEq,
            List.append_cancel_right_eq] at h
          simp only [dropOperator, h.1, if_true, h.2]
        | cons e cs =>
          simp only [List.cons_append, dropOperator, Option.ite_none_right_eq_some] at h
          simp only [dropOperator, h.1, if_true]
          exact ih h.2

end Ahead

end TypedFormat.Source

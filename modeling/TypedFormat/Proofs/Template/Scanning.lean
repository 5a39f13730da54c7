import Mathlib.Data.List.TakeWhile
import TypedFormat.Template.Raw
import TypedFormat.Template.Token

/-!
# Scanning raw tokens

`Shape` lists once and for all what characters can start with: one of the four kinds of token, or a brace out of place. What
one step of the scanner does on each shape (`Raw.one_opening` and the lemmas after it) is all that later proofs need to know
about it. `Raw.scan` is the whole reading as a total function; `Raw.consumed` is what it reads, as it is written in the
template, and `Raw.left` what it leaves. Proofs about the whole reading go by `Raw.reading_induction`.
-/

namespace TypedFormat.Template

open TypedFormat.Text

/-- The characters start with a closing brace that is not doubled. -/
def LoneClosing (cs : List Char) : Prop := ∃ after, cs = '}' :: after ∧ after.head? ≠ some '}'

/-- The characters start with an opening brace that is not doubled, and the longest run of name characters after it is not
followed by a closing brace. -/
def LoneOpening (cs : List Char) : Prop :=
  ∃ after, cs = '{' :: after ∧ after.head? ≠ some '{' ∧ (after.dropWhile isNameChar).head? ≠ some '}'

/-- What characters can start with. -/
inductive Shape : List Char → Prop where
  | nil : Shape []
  | opening (cs : List Char) : Shape ('{' :: '{' :: cs)
  | closing (cs : List Char) : Shape ('}' :: '}' :: cs)
  | placeholder (name cs : List Char) : (∀ c ∈ name, isNameChar c = true) → Shape ('{' :: (name ++ '}' :: cs))
  | plain (c : Char) (cs : List Char) : isPlainChar c = true → Shape (c :: cs)
  | loneClosing {cs : List Char} : LoneClosing cs → Shape cs
  | loneOpening {cs : List Char} : LoneOpening cs → Shape cs

/-- All characters have a shape. -/
theorem shape (cs : List Char) : Shape cs := by
  cases cs with
  | nil => exact .nil
  | cons c cs =>
    by_cases ho : c = '{'
    · subst ho
      by_cases hd : cs.head? = some '{'
      · obtain ⟨r, rfl⟩ := List.head?_eq_some_iff.1 hd
        exact .opening r
      · by_cases hn : (cs.dropWhile isNameChar).head? = some '}'
        · obtain ⟨r, hr⟩ := List.head?_eq_some_iff.1 hn
          rw [← List.takeWhile_append_dropWhile (p := isNameChar) (l := cs), hr]
          exact .placeholder _ r fun d hd => List.mem_takeWhile_imp hd
        · exact .loneOpening ⟨cs, rfl, hd, hn⟩
    · by_cases hc : c = '}'
      · subst hc
        by_cases hd : cs.head? = some '}'
        · obtain ⟨r, rfl⟩ := List.head?_eq_some_iff.1 hd
          exact .closing r
        · exact .loneClosing ⟨cs, rfl, hd⟩
      · exact .plain c cs (by simp [isPlainChar, ho, hc])

namespace Raw

/-! ## One step of the scanner -/

theorem one_nil : one [] = none := rfl

theorem one_opening (cs : List Char) : one ('{' :: '{' :: cs) = some (.text ['{'], cs) := rfl

theorem one_closing (cs : List Char) : one ('}' :: '}' :: cs) = some (.text ['}'], cs) := rfl

/-- An opening brace that is not doubled is no doubled brace. -/
theorem escapedBrace_of_head?_ne {cs : List Char} (h : cs.head? ≠ some '{') : escapedBrace ('{' :: cs) = none := by
  cases cs with
  | nil => rfl
  | cons c cs =>
    unfold escapedBrace
    split
    · next heq => cases heq; exact absurd rfl h
    · next heq => cases heq
    · rfl

theorem one_placeholder {name : List Char} (h : ∀ c ∈ name, isNameChar c = true) (cs : List Char) :
    one ('{' :: (name ++ '}' :: cs)) = some (.placeholder name, cs) := by
  have hhead : (name ++ '}' :: cs).head? ≠ some '{' := by
    cases name with
    | nil => exact fun he => nomatch Option.some.inj he
    | cons c name =>
      intro he
      cases Option.some.inj he
      exact absurd (h '{' (List.mem_cons_self)) (by decide)
  have hdrop : (name ++ '}' :: cs).dropWhile isNameChar = '}' :: cs := by
    rw [List.dropWhile_append_of_pos h]
    rfl
  have htake : (name ++ '}' :: cs).takeWhile isNameChar = name := by
    rw [List.takeWhile_append_of_pos h]
    exact List.append_nil name
  have hb : bracedName ('{' :: (name ++ '}' :: cs)) = some (.placeholder name, cs) := by
    simp only [bracedName, hdrop, htake]
  simp only [one, Scanner.orElse, escapedBrace_of_head?_ne hhead, hb, Option.none_or, Option.some_or]

theorem one_plain {c : Char} (h : isPlainChar c = true) (cs : List Char) :
    one (c :: cs) = some (.text (c :: cs.takeWhile isPlainChar), cs.dropWhile isPlainChar) := by
  have ho : c ≠ '{' := fun he => absurd h (by rw [he]; decide)
  have hc : c ≠ '}' := fun he => absurd h (by rw [he]; decide)
  have he : escapedBrace (c :: cs) = none := by
    unfold escapedBrace
    split
    · next heq => cases heq; exact absurd rfl ho
    · next heq => cases heq; exact absurd rfl hc
    · rfl
  have hb : bracedName (c :: cs) = none := by
    unfold bracedName
    split
    · next heq => cases heq; exact absurd rfl ho
    · rfl
  have hp : plainRun (c :: cs) = some (.text (c :: cs.takeWhile isPlainChar), cs.dropWhile isPlainChar) := by
    unfold plainRun
    rw [List.takeWhile_cons_of_pos h, List.dropWhile_cons_of_pos h]
  simp only [one, Scanner.orElse, he, hb, hp, Option.none_or]

theorem one_loneClosing {cs : List Char} (h : LoneClosing cs) : one cs = none := by
  obtain ⟨after, rfl, hne⟩ := h
  have he : escapedBrace ('}' :: after) = none := by
    cases after with
    | nil => rfl
    | cons c after =>
      unfold escapedBrace
      split
      · next heq => cases heq
      · next heq => cases heq; exact absurd rfl hne
      · rfl
  simp only [one, Scanner.orElse, he, Option.none_or]
  rfl

theorem one_loneOpening {cs : List Char} (h : LoneOpening cs) : one cs = none := by
  obtain ⟨after, rfl, hne, hname⟩ := h
  have hb : bracedName ('{' :: after) = none := by
    unfold bracedName
    split
    · next rest heq =>
      cases heq
      split
      · next tail hd => exact absurd (by rw [hd]; rfl) hname
      · rfl
    · rfl
  simp only [one, Scanner.orElse, escapedBrace_of_head?_ne hne, hb, Option.none_or]
  rfl

/-! ## The whole reading -/

/-- The tokens that are read and what is left, as a total function. -/
def scan (cs : List Char) : List Raw × List Char :=
  match read cs with
  | .ok r => r
  | .error _ => ([], cs)

/-- What reading leaves. -/
def left (cs : List Char) : List Char := (scan cs).2

/-- Reading is the total function. -/
theorem read_eq_scan (cs : List Char) : read cs = .ok (scan cs) := by
  obtain ⟨r, hr⟩ := read_ok cs
  rw [scan, hr]

/-- Where no token starts, nothing is read. -/
theorem scan_of_none {cs : List Char} (h : one cs = none) : scan cs = ([], cs) := by
  rw [scan, read, Scanner.many_of_none h]

/-- Where a token starts, it is read, and then the rest. -/
theorem scan_of_some {cs rest : List Char} {a : Raw} (h : one cs = some (a, rest)) :
    scan cs = (a :: (scan rest).1, left rest) := by
  have hr : read cs = (read rest).map fun r => (a :: r.1, r.2) := Scanner.many_of_some h (one_progressing _ _ _ h)
  rw [read_eq_scan, read_eq_scan] at hr
  exact Except.ok.inj hr

/-- What holds where nothing is read, and of what starts with a token if it holds of the rest, holds always. -/
theorem reading_induction {motive : List Char → Prop} (stop : ∀ cs, one cs = none → motive cs)
    (step : ∀ cs a rest, one cs = some (a, rest) → motive rest → motive cs) (cs : List Char) : motive cs := by
  induction hn : cs.length using Nat.strongRecOn generalizing cs with
  | ind n ih =>
    cases ho : one cs with
    | none => exact stop cs ho
    | some r => exact step cs r.1 r.2 ho (ih r.2.length (hn ▸ one_progressing _ _ _ ho) r.2 rfl)

/-- The raw token as it is written in a template. -/
def written : Raw → List Char
  | text run => doubled run
  | placeholder name => '{' :: (name ++ ['}'])

/-- What is read, as it is written in the template. -/
def consumed (cs : List Char) : List Char := (scan cs).1.flatMap written

/-- The scanner stops where no token starts. -/
theorem one_left (cs : List Char) : one (left cs) = none := by
  induction cs using reading_induction with
  | stop cs h => rw [left, scan_of_none h]; exact h
  | step cs a rest h ih => rw [left, scan_of_some h]; exact ih

end Raw

end TypedFormat.Template

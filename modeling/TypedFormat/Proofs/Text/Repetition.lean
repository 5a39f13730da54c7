import Mathlib.Logic.Relation
import TypedFormat.Text.Scan

/-!
# Repetitions

A scanner reads an item or does not apply. A `Matcher` can end in a third way: it gives up for good, and then nothing else is
tried in its place. Matchers are put together from fixed texts and from runs of characters of one kind. A scanner is a matcher
that never gives up (`Matcher.ofScanner`).

A repetition asks its matcher again and again. `Loop.round` is one time round: it ends where the matcher does not apply, and it
fails where the matcher gives up or has consumed no byte. Nothing in it bounds the number of rounds. Over a scanner that is
`Consuming` every run is finite (`Loop.wellFounded_round`). What one round keeps is the outcome (`Loop.outcome_round`), so every
run ends, and it ends with what `Scanner.many` reads (`Loop.ends_iff`).
-/

namespace TypedFormat.Text

variable {α β γ : Type}

/-! ## Scanners that consume -/

/-- Characters take at least one byte. -/
theorem utf8Size_pos {cs : List Char} (h : cs ≠ []) : 0 < utf8Size cs := by
  cases cs with
  | nil => exact absurd rfl h
  | cons c cs =>
    have hc := c.utf8Size_pos
    rw [utf8Size_cons]
    omega

namespace Scanner

variable {scan : Scanner α} {cs rest : List Char} {a : α}

/-- Every item read takes at least one character, and leaves the characters after it as they are. -/
def Consuming (scan : Scanner α) : Prop :=
  ∀ cs a rest, scan cs = some (a, rest) → ∃ front, front ≠ [] ∧ front ++ rest = cs

/-- A progressing scanner that leaves a suffix is consuming. -/
theorem Progressing.consuming (hp : Progressing scan) (hs : ∀ cs a rest, scan cs = some (a, rest) → rest <:+ cs) :
    Consuming scan := by
  intro cs a rest h
  obtain ⟨front, hfront⟩ := hs cs a rest h
  refine ⟨front, ?_, hfront⟩
  rintro rfl
  have hlt := hp cs a rest h
  rw [← hfront, List.nil_append] at hlt
  exact Nat.lt_irrefl _ hlt

/-- A consuming scanner is progressing. -/
theorem Consuming.progressing (hc : Consuming scan) : Progressing scan := by
  intro cs a rest h
  obtain ⟨front, hne, rfl⟩ := hc cs a rest h
  have hpos := List.length_pos_iff.2 hne
  rw [List.length_append]
  omega

/-- What a consuming scanner leaves takes fewer bytes. -/
theorem Consuming.utf8Size_lt (hc : Consuming scan) (h : scan cs = some (a, rest)) : utf8Size rest < utf8Size cs := by
  obtain ⟨front, hne, rfl⟩ := hc cs a rest h
  have hpos := utf8Size_pos hne
  rw [utf8Size_append]
  omega

end Scanner

/-! ## Matchers -/

/-- How an attempt to read an item ends. -/
inductive Attempt (α : Type) where
  /-- The item, and the characters after it. -/
  | read (item : α) (rest : List Char)
  /-- There is no such item here. Another one may be tried. -/
  | miss
  /-- Reading is given up for good. -/
  | abort
  deriving DecidableEq, Repr

/-- A matcher attempts to read one item off the front of the characters. -/
abbrev Matcher (α : Type) := List Char → Attempt α

namespace Matcher

/-- The scanner as a matcher, which never gives up. -/
def ofScanner (scan : Scanner α) : Matcher α := fun cs =>
  match scan cs with
  | some (a, rest) => .read a rest
  | none => .miss

/-- One character. -/
def char (c : Char) : Matcher Char
  | [] => .miss
  | d :: rest => if d = c then .read d rest else .miss

/-- A fixed text. -/
def tag (word : List Char) : Matcher (List Char) := fun cs =>
  if word <+: cs then .read word (cs.drop word.length) else .miss

/-- The longest run of characters of one kind, which may be empty. -/
def takeWhile (p : Char → Bool) : Matcher (List Char) := fun cs => .read (cs.takeWhile p) (cs.dropWhile p)

/-- The longest run of characters of one kind, if it is not empty. -/
def takeWhile1 (p : Char → Bool) : Matcher (List Char) := fun cs =>
  if cs.takeWhile p = [] then .miss else .read (cs.takeWhile p) (cs.dropWhile p)

/-- One matcher and then another. The first of them that does not read decides. -/
def andThen (first : Matcher α) (second : α → Matcher β) : Matcher β := fun cs =>
  match first cs with
  | .read a rest => second a rest
  | .miss => .miss
  | .abort => .abort

/-- The item that `f` makes of the item read. -/
def map (f : α → β) (m : Matcher α) : Matcher β := m.andThen fun a rest => .read (f a) rest

/-- What stands between two other items. -/
def delimited (opening : Matcher α) (m : Matcher β) (closing : Matcher γ) : Matcher β :=
  opening.andThen fun _ => m.andThen fun b => closing.map fun _ => b

/-- Ordered choice. The second matcher is asked only if the first one misses, and not if it gives up. -/
def orElse (first second : Matcher α) : Matcher α := fun cs =>
  match first cs with
  | .miss => second cs
  | attempt => attempt

/-- A choice between scanners is a scanner. -/
theorem orElse_ofScanner (first second : Scanner α) :
    (ofScanner first).orElse (ofScanner second) = ofScanner (first.orElse second) := by
  funext cs
  unfold Matcher.orElse Matcher.ofScanner Scanner.orElse
  cases hf : first cs <;> rfl

end Matcher

/-! ## Going round -/

/-- Where a repetition stands: the items that it has read, and the characters still to be read. -/
structure Loop (α : Type) where
  items : List α
  input : List Char
  deriving DecidableEq, Repr

/-- How a repetition ends. -/
inductive Ending (α : Type) where
  /-- The matcher does not apply to the rest. -/
  | done (items : List α) (rest : List Char)
  /-- The matcher has read an item that takes no byte. -/
  | stalled
  /-- The matcher has given up. -/
  | aborted
  deriving DecidableEq, Repr

namespace Loop

/-- One round. -/
def round (l : Loop α) (m : Matcher α) : Loop α ⊕ Ending α :=
  match m l.input with
  | .miss => .inr (.done l.items l.input)
  | .abort => .inr .aborted
  | .read a rest =>
    if utf8Size rest = utf8Size l.input then .inr .stalled else .inl ⟨l.items ++ [a], rest⟩

/-- Some rounds lead from one place to the other. -/
def Reaches (m : Matcher α) : Loop α → Loop α → Prop := Relation.ReflTransGen fun l next => l.round m = .inl next

/-- The repetition over the characters comes to this end. -/
def Ends (m : Matcher α) (cs : List Char) (e : Ending α) : Prop := ∃ l, Reaches m ⟨[], cs⟩ l ∧ l.round m = .inr e

/-- The items read so far and then those that `Scanner.many` reads of the rest. -/
def outcome (scan : Scanner α) (l : Loop α) : Except Stalled (List α × List Char) :=
  (Scanner.many scan l.input).map fun r => (l.items ++ r.1, r.2)

variable {scan : Scanner α} {l next : Loop α} {rest : List Char} {a : α}

theorem round_of_none (h : scan l.input = none) : l.round (.ofScanner scan) = .inr (.done l.items l.input) := by
  simp only [round, Matcher.ofScanner, h]

theorem round_of_some (hc : Scanner.Consuming scan) (h : scan l.input = some (a, rest)) :
    l.round (.ofScanner scan) = .inl ⟨l.items ++ [a], rest⟩ := by
  have hne : utf8Size rest ≠ utf8Size l.input := Nat.ne_of_lt (hc.utf8Size_lt h)
  simp only [round, Matcher.ofScanner, h, if_neg hne]

/-- A round that is not the last one has read an item. -/
theorem exists_of_round (hc : Scanner.Consuming scan) (h : l.round (.ofScanner scan) = .inl next) :
    ∃ a, scan l.input = some (a, next.input) ∧ next.items = l.items ++ [a] := by
  cases hs : scan l.input with
  | none =>
    rw [round_of_none hs] at h
    cases h
  | some r =>
    rw [round_of_some hc hs] at h
    cases h
    exact ⟨r.1, rfl, rfl⟩

/-- A round that is the last one has met the place where the scanner does not apply. -/
theorem eq_done_of_round {e : Ending α} (hc : Scanner.Consuming scan) (h : l.round (.ofScanner scan) = .inr e) :
    scan l.input = none ∧ e = .done l.items l.input := by
  cases hs : scan l.input with
  | none =>
    rw [round_of_none hs] at h
    exact ⟨rfl, (Sum.inr.inj h).symm⟩
  | some r =>
    rw [round_of_some hc hs] at h
    cases h

/-- No repetition of a consuming scanner goes round for ever: every round leaves fewer bytes. -/
theorem wellFounded_round (hc : Scanner.Consuming scan) :
    WellFounded fun next l : Loop α => l.round (.ofScanner scan) = .inl next := by
  refine Subrelation.wf (fun {next l} h => ?_) (measure fun l : Loop α => utf8Size l.input).wf
  obtain ⟨a, hs, -⟩ := exists_of_round hc h
  exact hc.utf8Size_lt hs

/-- A round keeps the outcome. -/
theorem outcome_round (hc : Scanner.Consuming scan) (h : l.round (.ofScanner scan) = .inl next) :
    next.outcome scan = l.outcome scan := by
  obtain ⟨a, hs, hitems⟩ := exists_of_round hc h
  rw [outcome, outcome, hitems, Scanner.many_of_some hs (hc.progressing _ _ _ hs)]
  cases Scanner.many scan next.input with
  | error e => rfl
  | ok r => simp only [Except.map, List.append_assoc, List.singleton_append]

/-- So does every run. -/
theorem outcome_of_reaches (hc : Scanner.Consuming scan) (h : Reaches (.ofScanner scan) l next) :
    next.outcome scan = l.outcome scan := by
  induction h with
  | refl => rfl
  | tail _ hround ih => rw [outcome_round hc hround, ih]

/-- Every run can be continued to a place where the scanner does not apply. -/
theorem exists_last (hc : Scanner.Consuming scan) (l : Loop α) :
    ∃ last, Reaches (.ofScanner scan) l last ∧ scan last.input = none := by
  -- By induction on the rounds that are still possible.
  induction l using (wellFounded_round hc).induction with
  | _ l ih =>
    cases hs : scan l.input with
    | none => exact ⟨l, .refl, hs⟩
    | some r =>
      have hround := round_of_some hc hs
      obtain ⟨last, hreaches, hlast⟩ := ih _ hround
      exact ⟨last, .head hround hreaches, hlast⟩

/-- The repetition of a consuming scanner has one ending: it reads what `Scanner.many` reads. -/
theorem ends_iff (hc : Scanner.Consuming scan) {cs : List Char} {items : List α}
    (h : Scanner.many scan cs = .ok (items, rest)) (e : Ending α) :
    Ends (.ofScanner scan) cs e ↔ e = .done items rest := by
  -- Where a run stops no item is missing, so what it has read is the whole outcome, and that is the one it started with.
  have hlast : ∀ l, Reaches (.ofScanner scan) ⟨[], cs⟩ l → scan l.input = none →
      Ending.done l.items l.input = .done items rest := by
    intro l hreaches hnone
    have hsame := outcome_of_reaches hc hreaches
    rw [outcome, outcome, h, Scanner.many_of_none hnone] at hsame
    simp only [Except.map, List.append_nil, List.nil_append, Except.ok.injEq, Prod.mk.injEq] at hsame
    rw [hsame.1, hsame.2]
  constructor
  · rintro ⟨l, hreaches, hround⟩
    obtain ⟨hnone, rfl⟩ := eq_done_of_round hc hround
    exact hlast l hreaches hnone
  · rintro rfl
    obtain ⟨l, hreaches, hnone⟩ := exists_last hc ⟨[], cs⟩
    exact ⟨l, hreaches, hlast l hreaches hnone ▸ round_of_none hnone⟩

/-- A matcher of runs that may be empty is not consuming, and its repetition stalls. -/
example : (Loop.mk [] ['}']).round (.takeWhile Char.isAlphanum) = .inr .stalled := by decide

end Loop

end TypedFormat.Text

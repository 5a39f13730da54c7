/-!
# Scanning a list of characters

A scanner reads one item off the front of a list of characters. `Scanner.many` repeats a scanner until it no longer
applies. A scanner that succeeds without consuming a character could be repeated for ever, so the repetition stops
there with `Stalled`; a scanner that is `Progressing` never stalls (`Scanner.many_ok`).

A text has two lengths: its scalars (`String.length`) and its bytes in UTF-8 (`String.utf8ByteSize`). The byte length of
a list of characters is defined here (`utf8Size`).
-/

namespace TypedFormat

/-! ## Steps that can fail -/

section Steps

variable {ε α β : Type}

/-- A mapped step succeeds where the step does. -/
theorem map_eq_ok_iff {x : Except ε α} {g : α → β} {b : β} : x.map g = .ok b ↔ ∃ a, x = .ok a ∧ g a = b := by
  cases x <;> simp [Except.map]

/-- A sequence succeeds where its first step does and then the second. -/
theorem bind_eq_ok_iff {x : Except ε α} {g : α → Except ε β} {b : β} :
    x >>= g = .ok b ↔ ∃ a, x = .ok a ∧ g a = .ok b := by
  cases x <;> simp [bind, Except.bind]

end Steps

namespace Text

/-! ## Measures of a text -/

/-- The number of bytes that the characters take in UTF-8. -/
def utf8Size : List Char → Nat
  | [] => 0
  | c :: cs => c.utf8Size + utf8Size cs

@[simp] theorem utf8Size_nil : utf8Size [] = 0 := rfl

@[simp] theorem utf8Size_cons (c : Char) (cs : List Char) : utf8Size (c :: cs) = c.utf8Size + utf8Size cs := rfl

@[simp] theorem utf8Size_append (cs ds : List Char) : utf8Size (cs ++ ds) = utf8Size cs + utf8Size ds := by
  induction cs with
  | nil => simp
  | cons c cs ih => simp [ih, Nat.add_assoc]

/-- The byte length of a text is that of its characters. -/
theorem utf8Size_toList (s : String) : utf8Size s.toList = s.utf8ByteSize := by
  suffices h : ∀ cs : List Char, utf8Size cs = (String.ofList cs).utf8ByteSize by
    rw [h, String.ofList_toList]
  intro cs
  induction cs with
  | nil => simp
  | cons c cs ih =>
    have hone : String.ofList (c :: cs) = String.singleton c ++ String.ofList cs := by
      rw [String.singleton_eq_ofList, ← String.ofList_append]
      rfl
    rw [utf8Size_cons, ih, hone, String.utf8ByteSize_append, String.utf8ByteSize_singleton]

/-! ## Scanners -/

/-- A scanner gives the item it read and the characters after it, or nothing when it does not apply. -/
abbrev Scanner (α : Type) := List Char → Option (α × List Char)

/-- A repetition met a scanner that succeeded without consuming a character. -/
inductive Stalled where
  | stalled
  deriving DecidableEq, Repr

namespace Scanner

/-- Ordered choice: `second` is asked only where `first` does not apply. -/
def orElse {α : Type} (first second : Scanner α) : Scanner α := fun cs => (first cs).or (second cs)

/-- Every item read leaves fewer characters than there were. -/
def Progressing {α : Type} (scan : Scanner α) : Prop :=
  ∀ cs a rest, scan cs = some (a, rest) → rest.length < cs.length

/-- The items that `scan` reads one after the other, and the characters where it no longer applies. -/
def many {α : Type} (scan : Scanner α) (cs : List Char) : Except Stalled (List α × List Char) :=
  match scan cs with
  | none => .ok ([], cs)
  | some (a, rest) =>
    if _h : rest.length < cs.length then
      match many scan rest with
      | .ok (as, left) => .ok (a :: as, left)
      | .error e => .error e
    else
      .error .stalled
termination_by cs.length

/-- A repetition ends at once where the scanner does not apply. -/
theorem many_of_none {α : Type} {scan : Scanner α} {cs : List Char} (h : scan cs = none) :
    many scan cs = .ok ([], cs) := by
  rw [many, h]

/-- A repetition reads the first item and goes on after it. -/
theorem many_of_some {α : Type} {scan : Scanner α} {cs rest : List Char} {a : α} (h : scan cs = some (a, rest))
    (hlt : rest.length < cs.length) :
    many scan cs = (many scan rest).map fun r => (a :: r.1, r.2) := by
  rw [many, h]
  simp only [hlt, dite_true]
  cases many scan rest <;> rfl

/-- A progressing scanner never stalls. -/
theorem many_ok {α : Type} {scan : Scanner α} (h : Progressing scan) (cs : List Char) :
    ∃ r, many scan cs = .ok r := by
  match hs : scan cs with
  | none => exact ⟨_, many_of_none hs⟩
  | some (a, rest) =>
    have hlt := h _ _ _ hs
    obtain ⟨r, hr⟩ := many_ok h rest
    exact ⟨(a :: r.1, r.2), by rw [many_of_some hs hlt, hr]; rfl⟩
termination_by cs.length

/-- Ordered choice between progressing scanners is progressing. -/
theorem Progressing.orElse {α : Type} {first second : Scanner α} (h₁ : Progressing first) (h₂ : Progressing second) :
    Progressing (first.orElse second) := by
  intro cs a rest h
  unfold Scanner.orElse at h
  cases hf : first cs with
  | none => rw [hf] at h; exact h₂ _ _ _ h
  | some r => rw [hf] at h; exact h₁ _ _ _ (hf.trans h)

end Scanner

end Text

end TypedFormat

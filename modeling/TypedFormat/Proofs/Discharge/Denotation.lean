import TypedFormat.Renderer
import TypedFormat.Proofs.Discharge.Walk

/-!
# What a discharge gives

A format has placeholders `p₁ … pₙ`, read off its leaves from left to right. Arguments `a₁ … aₘ` are supplied one by one.
Where an argument has not the type of its placeholder, or makes its renderer panic, the discharge stops with that fault as
soon as that argument is supplied, whatever comes after it (`FirstFault`). Otherwise the numbers decide: with `m < n` more
arguments are awaited, with `m = n` the answer is the text of the leaves (`Leaf.filled`), and with `m > n` there are too many.

`Format.discharge_denotation` states this for all formats, renderers and arguments. Where the placeholders are made by
combinators of their own type, the fault is a mismatch, and the argument that is refused is the first of another type
(`firstFault_combinators_iff`, `Format.discharge_of_mismatch`): these renderers never panic.
-/

namespace TypedFormat

/-- The argument at `i` is the first that its placeholder refuses, with `fault`: a mismatch of types or a panic. -/
structure FirstFault (placeholders : List Renderer) (args : List Value) (i : Nat) (fault : Fault) : Prop where
  here : ∃ p v, placeholders[i]? = some p ∧ args[i]? = some v ∧ p v = .error fault
  before : ∀ j < i, ∃ p v text, placeholders[j]? = some p ∧ args[j]? = some v ∧ p v = .ok text

/-- The placeholders render the arguments to the texts, one to one. -/
inductive Rendered : List Renderer → List Value → List String → Prop where
  | nil : Rendered [] [] []
  | cons {p : Renderer} {v : Value} {text : String} {ps : List Renderer} {vs : List Value} {texts : List String} :
      p v = .ok text → Rendered ps vs texts → Rendered (p :: ps) (v :: vs) (text :: texts)

/-- The leaves one after the other: literals as they are, and the texts in place of the placeholders. -/
def Leaf.filled {f : Type → Type} : List (Leaf f) → List String → String
  | .literal text :: ls, texts => text ++ filled ls texts
  | .placeholder _ :: ls, text :: texts => text ++ filled ls texts
  | .placeholder _ :: _, [] => ""
  | [], _ => ""

namespace FirstFault

variable {p : Renderer} {ps : List Renderer} {v : Value} {vs : List Value} {i : Nat} {fault : Fault}

/-- The first argument is refused. -/
theorem zero (h : p v = .error fault) : FirstFault (p :: ps) (v :: vs) 0 fault :=
  ⟨⟨p, v, rfl, rfl, h⟩, fun _ hj => absurd hj (Nat.not_lt_zero _)⟩

/-- The first argument is rendered, and a later one is refused. -/
theorem succ {text : String} (hv : p v = .ok text) (h : FirstFault ps vs i fault) :
    FirstFault (p :: ps) (v :: vs) (i + 1) fault := by
  refine ⟨h.here, fun j hj => ?_⟩
  cases j with
  | zero => exact ⟨p, v, text, rfl, rfl, hv⟩
  | succ j => exact h.before j (by omega)

/-- Only the first argument can be refused at 0. -/
theorem eq_of_zero (h : FirstFault (p :: ps) (v :: vs) 0 fault) : p v = .error fault := by
  obtain ⟨q, w, hq, hw, he⟩ := h.here
  cases hq
  cases hw
  exact he

/-- Before an argument that is refused further on, the first one is rendered. -/
theorem tail (h : FirstFault (p :: ps) (v :: vs) (i + 1) fault) :
    (∃ text, p v = .ok text) ∧ FirstFault ps vs i fault := by
  obtain ⟨q, w, text, hq, hw, ht⟩ := h.before 0 (Nat.succ_pos i)
  cases hq
  cases hw
  exact ⟨⟨text, ht⟩, h.here, fun j hj => h.before (j + 1) (by omega)⟩

/-- Without placeholders nothing is refused. -/
theorem not_nil_left : ¬FirstFault [] vs i fault := by
  rintro ⟨⟨q, w, hq, -⟩, -⟩
  cases hq

/-- Without arguments nothing is refused. -/
theorem not_nil_right : ¬FirstFault ps [] i fault := by
  rintro ⟨⟨q, w, -, hw, -⟩, -⟩
  cases hw

end FirstFault

/-! ## Types of placeholders -/

/-- The value has the type of the placeholder that the combinator makes. -/
def Combinator.Takes : Combinator → Value → Prop
  | boolean, v => ∃ b, v = .bool b
  | int, v => ∃ i, v = .int i
  | float, v => ∃ bits, v = .float bits
  | string, v => ∃ s, v = .string s
  | display, v => ∀ items, v ≠ .list items

/-- Values of other types are refused, as such, and all values of the type are rendered. -/
theorem Combinator.render_eq_error_iff (c : Combinator) (v : Value) (fault : Fault) :
    c.render v = .error fault ↔ ¬c.Takes v ∧ fault = .typeMismatch := by
  constructor
  · intro h
    cases c <;> cases v <;> cases h <;> simp [Takes]
  · rintro ⟨hv, rfl⟩
    cases c <;> cases v <;> first | rfl | simp [Takes] at hv

/-- The values of the type are those that are rendered. -/
theorem Combinator.render_ok_iff (c : Combinator) (v : Value) : (∃ text, c.render v = .ok text) ↔ c.Takes v := by
  constructor
  · rintro ⟨text, ht⟩
    refine Classical.byContradiction fun hno => ?_
    rw [(c.render_eq_error_iff v .typeMismatch).2 ⟨hno, rfl⟩] at ht
    cases ht
  · intro htakes
    cases hv : c.render v with
    | ok text => exact ⟨text, rfl⟩
    | error fault => exact absurd htakes ((c.render_eq_error_iff v fault).1 hv).1

/-- Placeholders that combinators make refuse the first argument of another type, as a mismatch. -/
theorem firstFault_combinators_iff {cs : List Combinator} {args : List Value} {i : Nat} {fault : Fault} :
    FirstFault (cs.map Combinator.render) args i fault ↔
      fault = .typeMismatch ∧ (∃ c v, cs[i]? = some c ∧ args[i]? = some v ∧ ¬c.Takes v) ∧
        ∀ j < i, ∃ c v, cs[j]? = some c ∧ args[j]? = some v ∧ c.Takes v := by
  constructor
  · rintro ⟨⟨p, v, hp, hv, he⟩, hbefore⟩
    rw [List.getElem?_map, Option.map_eq_some_iff] at hp
    obtain ⟨c, hc, rfl⟩ := hp
    obtain ⟨hno, rfl⟩ := (c.render_eq_error_iff v fault).1 he
    refine ⟨rfl, ⟨c, v, hc, hv, hno⟩, fun j hj => ?_⟩
    obtain ⟨q, w, text, hq, hw, ht⟩ := hbefore j hj
    rw [List.getElem?_map, Option.map_eq_some_iff] at hq
    obtain ⟨d, hd, rfl⟩ := hq
    exact ⟨d, w, hd, hw, (d.render_ok_iff w).1 ⟨text, ht⟩⟩
  · rintro ⟨rfl, ⟨c, v, hc, hv, hno⟩, hbefore⟩
    refine ⟨⟨c.render, v, by simp [hc], hv, (c.render_eq_error_iff v _).2 ⟨hno, rfl⟩⟩, fun j hj => ?_⟩
    obtain ⟨d, w, hd, hw, htakes⟩ := hbefore j hj
    obtain ⟨text, ht⟩ := (d.render_ok_iff w).2 htakes
    exact ⟨d.render, w, text, by simp [hd], hw, ht⟩

/-! ## The walk by the first fault and by the numbers -/

/-- The renderers of the placeholders among the leaves. -/
abbrev Leaf.renderers (ls : List (Leaf (Except Fault))) : List Renderer := ls.filterMap Leaf.render?

/-- Up to the first argument that is refused the walk waits for it. -/
theorem walk_take {ls : List (Leaf (Except Fault))} {args : List Value} {i : Nat} {fault : Fault}
    (h : FirstFault (Leaf.renderers ls) args i fault) (front : String) : walk ls front (args.take i) = .ok .waiting := by
  induction ls generalizing front args i with
  | nil => exact absurd h FirstFault.not_nil_left
  | cons l ls ih =>
    cases l with
    | literal text => exact ih h (front ++ text)
    | placeholder render =>
      cases args with
      | nil => exact absurd h FirstFault.not_nil_right
      | cons v vs =>
        cases i with
        | zero => rfl
        | succ i =>
          obtain ⟨⟨text, ht⟩, htail⟩ := h.tail
          rw [List.take_succ_cons, walk, ht]
          exact ih htail (front ++ text)

/-- The first argument that is refused ends the walk, whatever comes after it. -/
theorem walk_take_succ_append {ls : List (Leaf (Except Fault))} {args : List Value} {i : Nat} {fault : Fault}
    (h : FirstFault (Leaf.renderers ls) args i fault) (front : String) (later : List Value) :
    walk ls front (args.take (i + 1) ++ later) = .error fault := by
  induction ls generalizing front args i with
  | nil => exact absurd h FirstFault.not_nil_left
  | cons l ls ih =>
    cases l with
    | literal text => exact ih h (front ++ text)
    | placeholder render =>
      cases args with
      | nil => exact absurd h FirstFault.not_nil_right
      | cons v vs =>
        cases i with
        | zero =>
          rw [List.take_succ_cons, List.cons_append, walk, h.eq_of_zero]
          rfl
        | succ i =>
          obtain ⟨⟨text, ht⟩, htail⟩ := h.tail
          rw [List.take_succ_cons, List.cons_append, walk, ht]
          exact ih htail (front ++ text)

/-- A walk without a fault: the number of arguments says whether it waits, ends, or ends with arguments left over. -/
theorem walk_of_not_firstFault (ls : List (Leaf (Except Fault))) (front : String) (args : List Value)
    (h : ∀ i fault, ¬FirstFault (Leaf.renderers ls) args i fault) :
    (args.length < (Leaf.renderers ls).length → walk ls front args = .ok .waiting) ∧
      (args.length = (Leaf.renderers ls).length → ∃ texts, Rendered (Leaf.renderers ls) args texts ∧
        walk ls front args = .ok (.complete (front ++ Leaf.filled ls texts) [])) ∧
      ((Leaf.renderers ls).length < args.length → ∃ text v vs, walk ls front args = .ok (.complete text (v :: vs))) := by
  induction ls generalizing front args with
  | nil =>
    refine ⟨fun hlt => absurd hlt (Nat.not_lt_zero _), fun he => ?_, fun hlt => ?_⟩
    · cases List.eq_nil_of_length_eq_zero he
      exact ⟨[], .nil, by rw [Leaf.filled, String.append_empty]; rfl⟩
    · cases args with
      | nil => exact absurd hlt (Nat.lt_irrefl 0)
      | cons v vs => exact ⟨front, v, vs, rfl⟩
  | cons l ls ih =>
    cases l with
    | literal text =>
      obtain ⟨hwait, hdone, hover⟩ := ih (front ++ text) args h
      refine ⟨hwait, fun he => ?_, hover⟩
      obtain ⟨texts, hr, hw⟩ := hdone he
      exact ⟨texts, hr, by rw [Leaf.filled, ← String.append_assoc]; exact hw⟩
    | placeholder render =>
      cases args with
      | nil =>
        refine ⟨fun _ => rfl, fun he => ?_, fun hlt => absurd hlt (Nat.not_lt_zero _)⟩
        cases he
      | cons v vs =>
        cases hv : render v with
        | error fault => exact absurd (FirstFault.zero hv) (h 0 fault)
        | ok text =>
          obtain ⟨hwait, hdone, hover⟩ := ih (front ++ text) vs fun i fault hf => h (i + 1) fault (hf.succ hv)
          have hstep : walk (.placeholder render :: ls) front (v :: vs) = walk ls (front ++ text) vs := by
            rw [walk, hv]
            rfl
          rw [hstep]
          refine ⟨fun hlt => hwait (Nat.lt_of_succ_lt_succ hlt), fun he => ?_,
            fun hlt => hover (Nat.lt_of_succ_lt_succ hlt)⟩
          obtain ⟨texts, hr, hw⟩ := hdone (Nat.succ.inj he)
          exact ⟨text :: texts, .cons hv hr, by rw [Leaf.filled, ← String.append_assoc]; exact hw⟩

/-- A format whose placeholders are made by combinators reports a mismatch at the first argument of another type, whatever
comes after it. -/
theorem Format.discharge_of_mismatch {t : Format (Except Fault)} {cs : List Combinator} {args : List Value} {i : Nat}
    (ht : t.placeholders = cs.map Combinator.render) (hi : ∃ c v, cs[i]? = some c ∧ args[i]? = some v ∧ ¬c.Takes v)
    (hbefore : ∀ j < i, ∃ c v, cs[j]? = some c ∧ args[j]? = some v ∧ c.Takes v) (later : List Value) :
    t.discharge .stepwise (args.take (i + 1) ++ later) = .error (.fault .typeMismatch) := by
  have hfault : FirstFault t.placeholders args i .typeMismatch := by
    rw [ht]
    exact firstFault_combinators_iff.2 ⟨rfl, hi, hbefore⟩
  rw [discharge_stepwise_eq_walk, walk_take_succ_append hfault]
  rfl

/-! ## The answer -/

/-- The denotation of a discharge. The first argument that its placeholder refuses decides the answer when it is supplied,
and until then more arguments are awaited. When none is refused, the answer depends on how many there are. -/
theorem Format.discharge_denotation (t : Format (Except Fault)) (args : List Value) :
    (∀ i fault, FirstFault t.placeholders args i fault →
      t.discharge .stepwise (args.take i) = .ok .callable ∧
        ∀ later, t.discharge .stepwise (args.take (i + 1) ++ later) = .error (.fault fault)) ∧
    ((∀ i fault, ¬FirstFault t.placeholders args i fault) →
      (args.length < t.placeholders.length → t.discharge .stepwise args = .ok .callable) ∧
      (args.length = t.placeholders.length → ∃ texts, Rendered t.placeholders args texts ∧
        t.discharge .stepwise args = .ok (.text (Leaf.filled t.leaves texts))) ∧
      (t.placeholders.length < args.length → t.discharge .stepwise args = .error (.fault .tooManyArguments))) := by
  refine ⟨fun i fault h => ⟨?_, fun later => ?_⟩, fun h => ?_⟩
  · rw [discharge_stepwise_eq_walk, walk_take h]
    rfl
  · rw [discharge_stepwise_eq_walk, walk_take_succ_append h]
    rfl
  · obtain ⟨hwait, hdone, hover⟩ := walk_of_not_firstFault t.leaves "" args h
    refine ⟨fun hlt => ?_, fun he => ?_, fun hlt => ?_⟩
    · rw [discharge_stepwise_eq_walk, hwait hlt]
      rfl
    · obtain ⟨texts, hr, hw⟩ := hdone he
      rw [String.empty_append] at hw
      exact ⟨texts, hr, by rw [discharge_stepwise_eq_walk, hw]; rfl⟩
    · obtain ⟨text, v, vs, hw⟩ := hover hlt
      rw [discharge_stepwise_eq_walk, hw]
      rfl

/-- A mismatch before a panic: the number is awaited, the text in place of the second number is refused, and the negative
number after it is never looked at. -/
theorem Format.discharge_denotation_mismatch_first :
    let t : Format (Except Fault) := .join (.join (.placeholder Combinator.int.render) .sum (.literal "/")) .method
      (.join (.placeholder Renderer.nonNegative) .function (.placeholder Renderer.nonNegative))
    t.discharge .stepwise [.int 7] = .ok .callable ∧
      t.discharge .stepwise [.int 7, .string "x", .int (-1)] = .error (.fault .typeMismatch) := by
  intro t
  have hf : FirstFault t.placeholders [.int 7, .string "x", .int (-1)] 1 .typeMismatch := (FirstFault.zero rfl).succ rfl
  obtain ⟨hwait, hfault⟩ := (t.discharge_denotation [.int 7, .string "x", .int (-1)]).1 1 .typeMismatch hf
  exact ⟨hwait, hfault [.int (-1)]⟩

end TypedFormat

import TypedFormat.Proofs.Discharge.Walk
import TypedFormat.Proofs.Recorded

/-!
# Stages of a discharge

Running a format whose renderers record events is a step itself (`Format.acting`): literals call their callbacks,
concatenation runs its right part in the callback of its left, and a placeholder gives a function. Nothing happens in such a
run, whatever the renderers do (`Format.start_eq`).

While arguments are supplied to what the run leaves, the chain stands before the leaves that are left, after the text of those
that are done (`Format.Stage`). An argument for the next placeholder is one step of its renderer, and the text in front is fixed
before that step (`Format.Reaches.supply`). After the last one the chain is the callback's result for the text that the
arguments alone determine (`Format.Reaches.finished`).
-/

namespace TypedFormat

variable {ε R : Type}

/-! ## Forgetting the events of renderers -/

/-- The leaf with a renderer whose events are forgotten. -/
def Leaf.erase : Leaf (Recorded ε) → Leaf (Except Fault)
  | literal text => .literal text
  | placeholder render => .placeholder fun v => (render v).outcome

theorem Format.leaves_erase (t : Format (Recorded ε)) : t.erase.leaves = t.leaves.map Leaf.erase := by
  induction t with
  | literal text => rfl
  | placeholder render => rfl
  | join left way right ihl ihr => rw [erase, leaves, leaves, ihl, ihr, List.map_append]

/-! ## Running as a step -/

namespace Format

/-- With a callback in which nothing happens, nothing happens in the run, and it leaves the chain of the format. -/
theorem run_acting (t : Format (Recorded ε)) {n : Nat} (k : String → Curried (Recorded ε) n R) :
    (t.acting n).run (fun text => pure (k text)) = pure ((t.spec n).run k) := by
  induction t generalizing n with
  | literal text => rfl
  | placeholder render =>
    refine congrArg pure (funext fun v => ?_)
    rw [layer_acting]
    exact bind_pure_comp k (render v)
  | join left way right ihl ihr =>
    simp only [acting, spec, Spec.join_eq_cat, Spec.run_cat, ihr]
    exact ihl _

/-- The format is run with a callback; what the run leaves is a chain. -/
def start (t : Format (Recorded ε)) (k : String → R) : Recorded ε (Callable (Recorded ε) R) :=
  (fun chain => ⟨t.layers 0, chain⟩) <$> (t.acting 0).run fun text => (pure (k text) : Recorded ε R)

/-- Nothing happens when a format is run. -/
theorem start_eq (t : Format (Recorded ε)) (k : String → R) : t.start k = pure (t.run (n := 0) k) :=
  (congrArg (Functor.map _) (t.run_acting (n := 0) k)).trans (map_pure _ _)

end Format

/-! ## What is left of a chain -/

/-- The chain of the leaves after the text `front`. -/
def remainder (ls : List (Leaf (Recorded ε))) (front : String) (k : String → R) : Callable (Recorded ε) R :=
  (Sized.ofLeaves ls : Sized (Recorded ε) 0 R).run fun tail => k (front ++ tail)

variable {ls : List (Leaf (Recorded ε))} {front : String} {k : String → R}

theorem remainder_nil (front : String) (k : String → R) :
    (remainder [] front k : Callable (Recorded ε) R) = .finished (k front) :=
  congrArg (fun text => Callable.finished (k text)) String.append_empty

/-- A literal joins the text in front at once. -/
theorem remainder_literal (text : String) (ls : List (Leaf (Recorded ε))) (front : String) (k : String → R) :
    remainder (.literal text :: ls) front k = remainder ls (front ++ text) k := by
  simp only [remainder, String.append_assoc]
  rfl

/-- A placeholder takes an argument, and rendering that is all that happens. -/
theorem supply_remainder_placeholder (render : Value → Recorded ε String) (v : Value) :
    Recorded.supply (remainder (.placeholder render :: ls) front k) v =
      (fun text => remainder ls (front ++ text) k) <$> render v := by
  simp only [remainder, String.append_assoc]
  exact LawfulFunctor.comp_map _ _ (render v) |>.symm

/-- Every placeholder that is left is a layer. -/
theorem missing_remainder (ls : List (Leaf (Recorded ε))) (front : String) (k : String → R) :
    (remainder ls front k).missing = (ls.filterMap Leaf.render?).length := by
  induction ls generalizing front with
  | nil => rfl
  | cons l ls ih =>
    cases l with
    | literal text => exact ih front
    | placeholder render => exact congrArg Nat.succ (ih front)

theorem Format.run_eq_remainder (t : Format (Recorded ε)) (k : String → R) : t.run (n := 0) k = remainder t.leaves "" k := by
  simp only [remainder, String.empty_append]
  exact t.run_eq_ofLeaves (n := 0) k

/-! ## Stages -/

namespace Format

/-- Supplying the path to the format leads to the leaves `ls`, after the text `front`: literals are passed, and the arguments of
the path are rendered by the placeholders. -/
inductive Stage (t : Format (Recorded ε)) :
    (path : List Value) → (ls : List (Leaf (Recorded ε))) → (front : String) → Prop where
  | start : Stage t [] t.leaves ""
  | literal {path : List Value} {text : String} {ls : List (Leaf (Recorded ε))} {front : String}
      (h : Stage t path (.literal text :: ls) front) : Stage t path ls (front ++ text)
  | argument {path : List Value} {render : Value → Recorded ε String} {ls : List (Leaf (Recorded ε))} {front text : String}
      {v : Value} (h : Stage t path (.placeholder render :: ls) front) (hv : (render v).outcome = .ok text) :
      Stage t (path ++ [v]) ls (front ++ text)

namespace Stage

variable {t : Format (Recorded ε)} {path : List Value}

/-- The placeholders that are left are those after the path. -/
theorem drop_placeholders (h : Stage t path ls front) : t.placeholders.drop path.length = ls.filterMap Leaf.render? := by
  induction h with
  | start => rfl
  | literal h ih => exact ih
  | argument h hv ih =>
    rw [List.length_append, List.length_singleton, ← List.drop_drop, ih]
    rfl

/-- The path has an argument for each placeholder that is done. -/
theorem length_path (h : Stage t path ls front) :
    path.length + (ls.filterMap Leaf.render?).length = t.placeholders.length := by
  induction h with
  | start => exact Nat.zero_add _
  | literal h ih => exact ih
  | argument h hv ih =>
    rw [← ih, List.length_append, List.length_singleton, Nat.add_assoc, Nat.add_comm 1]
    rfl

/-- A walk over the leaves of the whole format comes to the leaves that are left. -/
theorem walk (h : Stage t path ls front) (more : List Value) :
    TypedFormat.walk t.erase.leaves "" (path ++ more) = TypedFormat.walk (ls.map Leaf.erase) front more := by
  induction h generalizing more with
  | start => rw [leaves_erase, List.nil_append]
  | literal h ih => exact ih more
  | argument h hv ih =>
    rw [List.append_assoc, ih, List.map_cons, Leaf.erase, List.singleton_append, TypedFormat.walk, hv]
    rfl

/-- Supplying the path to the chain of the format leaves the chain of the leaves that are left. -/
theorem supplyAll (h : Stage t path ls front) (k : String → R) :
    (Recorded.supplyAll (t.run (n := 0) k) path).outcome = .ok (remainder ls front k) := by
  induction h with
  | start => exact congrArg Except.ok (t.run_eq_remainder k)
  | literal h ih => rw [ih, remainder_literal]
  | argument h hv ih =>
    rw [Recorded.supplyAll_concat, Recorded.outcome_bind, ih]
    refine (congrArg Recorded.outcome (supply_remainder_placeholder _ _)).trans ?_
    rw [Recorded.outcome_map, hv]
    rfl

/-- A stage can be moved on to the next placeholder or to the end, without a change of the chain. -/
theorem exists_next (h : Stage t path ls front) (k : String → R) :
    ∃ ms text, Stage t path ms text ∧ remainder ms text k = remainder ls front k ∧
      (ms = [] ∨ ∃ render rest, ms = .placeholder render :: rest) := by
  induction ls generalizing front with
  | nil => exact ⟨[], front, h, rfl, .inl rfl⟩
  | cons l ls ih =>
    cases l with
    | literal text =>
      obtain ⟨ms, whole, hstage, hchain, hnext⟩ := ih h.literal
      exact ⟨ms, whole, hstage, hchain.trans (remainder_literal text ls front k).symm, hnext⟩
    | placeholder render => exact ⟨_, front, h, rfl, .inr ⟨render, ls, rfl⟩⟩

end Stage

/-- The path leads to the chain: it is what is left at a stage of the path. -/
def Reaches (t : Format (Recorded ε)) (k : String → R) (path : List Value) (c : Callable (Recorded ε) R) : Prop :=
  ∃ ls front, Stage t path ls front ∧ c = remainder ls front k

namespace Reaches

variable {t : Format (Recorded ε)} {path : List Value} {c : Callable (Recorded ε) R}

/-- Without arguments there is the chain of the format. -/
theorem run (t : Format (Recorded ε)) (k : String → R) : t.Reaches k [] (t.run (n := 0) k) :=
  ⟨t.leaves, "", .start, t.run_eq_remainder k⟩

/-- The chain is what the path leaves of the chain of the format. -/
theorem supplyAll (h : t.Reaches k path c) : (Recorded.supplyAll (t.run (n := 0) k) path).outcome = .ok c := by
  obtain ⟨ls, front, hstage, rfl⟩ := h
  exact hstage.supplyAll k

/-- The chain takes the arguments that the path lacks. -/
theorem missing (h : t.Reaches k path c) : path.length + c.missing = t.placeholders.length := by
  obtain ⟨ls, front, hstage, rfl⟩ := h
  rw [missing_remainder]
  exact hstage.length_path

/-- An argument for the next placeholder is one step of its renderer, which leads on to the longer path. -/
theorem supply (h : t.Reaches k path c) {p : Value → Recorded ε String} (hp : t.placeholders[path.length]? = some p)
    (v : Value) :
    ∃ next : String → Callable (Recorded ε) R, Recorded.supply c v = next <$> p v ∧
      ∀ text, (p v).outcome = .ok text → t.Reaches k (path ++ [v]) (next text) := by
  obtain ⟨ls, front, hstage, rfl⟩ := h
  obtain ⟨ms, whole, hnext, hchain, rfl | ⟨render, rest, rfl⟩⟩ := hstage.exists_next k
  · have hdrop : t.placeholders.drop path.length = [] := hnext.drop_placeholders
    rw [List.getElem?_eq_none (List.drop_eq_nil_iff.1 hdrop)] at hp
    cases hp
  · have hrender : some render = some p := by
      rw [← hp, ← List.head?_drop, hnext.drop_placeholders]
      rfl
    cases hrender
    refine ⟨fun text => remainder rest (whole ++ text) k, ?_, fun text ht => ⟨rest, whole ++ text, hnext.argument ht, rfl⟩⟩
    rw [← hchain, supply_remainder_placeholder]

/-- When no placeholder is left, the chain refuses an argument, and nothing happens. -/
theorem supply_of_done (h : t.Reaches k path c) (hp : t.placeholders[path.length]? = none) (v : Value) :
    Recorded.supply c v = .silent (.error .tooManyArguments) := by
  have hmissing := h.missing
  have hdone := List.getElem?_eq_none_iff.1 hp
  obtain ⟨missing, chain⟩ := c
  cases missing with
  | zero => rfl
  | succ m =>
    have hpos : (⟨m + 1, chain⟩ : Callable (Recorded ε) R).missing = m + 1 := rfl
    omega

/-- What an argument leaves is reached by the longer path. -/
theorem next {d : Callable (Recorded ε) R} {v : Value} (h : t.Reaches k path c) (hd : (Recorded.supply c v).outcome = .ok d) :
    t.Reaches k (path ++ [v]) d := by
  cases hp : t.placeholders[path.length]? with
  | none =>
    rw [h.supply_of_done hp] at hd
    cases hd
  | some p =>
    obtain ⟨rest, hsupply, hrest⟩ := h.supply hp v
    rw [hsupply, Recorded.outcome_map] at hd
    obtain ⟨text, ht, rfl⟩ := map_eq_ok_iff.1 hd
    exact hrest text ht

/-- All that happens is the rendering by the next placeholder. -/
theorem events_supply (h : t.Reaches k path c) (v : Value) :
    (Recorded.supply c v).events = t.placeholders[path.length]?.elim [] fun p => (p v).events := by
  cases hp : t.placeholders[path.length]? with
  | none => rw [h.supply_of_done hp]; rfl
  | some p =>
    obtain ⟨rest, hsupply, -⟩ := h.supply hp v
    rw [hsupply, Recorded.events_map]
    rfl

/-- When nothing is missing, the chain is the callback's result for the text that the path is discharged to. -/
theorem finished (h : t.Reaches k path c) (hc : c.missing = 0) :
    ∃ text, t.erase.discharge .stepwise path = .ok (.text text) ∧ c = .finished (k text) := by
  obtain ⟨ls, front, hstage, rfl⟩ := h
  obtain ⟨ms, whole, hnext, hchain, rfl | ⟨render, rest, rfl⟩⟩ := hstage.exists_next k
  · refine ⟨whole, ?_, hchain.symm.trans (remainder_nil whole k)⟩
    have hwalk := hnext.walk []
    rw [List.append_nil] at hwalk
    rw [discharge_stepwise_eq_walk, hwalk]
    rfl
  · rw [← hchain, missing_remainder] at hc
    cases hc

end Reaches

end Format

end TypedFormat

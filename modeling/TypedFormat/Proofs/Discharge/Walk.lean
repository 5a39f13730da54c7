import TypedFormat.Discharge
import TypedFormat.Proofs.Discharge.Leaves
import TypedFormat.Proofs.Discharge.Supplying

/-!
# Walking the leaves

Supplying arguments to a format is a walk over its leaves (`Format.leads_run`): literals are copied, every placeholder
renders the next argument, and a fault ends the walk where it happens. The chain that the format leaves never shows this
walk: it captures the text so far in the callbacks of its nested specifications. So the induction is over the leaves joined
from the right and general in the callback, the text in front and the arguments (`leads_walk`).

`discharge_stepwise_eq_walk` reads the answer of a discharge off the walk.
-/

namespace TypedFormat

/-- How far arguments carry a format: to a placeholder that has no argument yet, or to the whole text, with the arguments
that are left over. -/
inductive Reach where
  | waiting
  | complete (text : String) (surplus : List Value)
  deriving Repr

/-- The leaves are walked from left to right, after the text `front`. -/
def walk : List (Leaf (Except Fault)) → (front : String) → List Value → Except Fault Reach
  | [], front, args => .ok (.complete front args)
  | .literal text :: ls, front, args => walk ls (front ++ text) args
  | .placeholder _ :: _, _, [] => .ok .waiting
  | .placeholder render :: ls, front, v :: vs => do
    let text ← render v
    walk ls (front ++ text) vs

/-- What supplying arguments comes to when the walk over them is known and the whole text goes to the callback `k`: the
walk's fault, a chain that takes more arguments, or the result of the callback supplied with what is left over. -/
def Leads {n : Nat} {R : Type} (k : String → Curried (Except Fault) n R) :
    Except Fault Reach → Except Fault (Chain R) → Prop
  | .error e, r => r = .error e
  | .ok .waiting, r => ∃ c, r = .ok c ∧ 0 < c.missing
  | .ok (.complete text surplus), r => r = Callable.supplyAll ⟨n, k text⟩ surplus

variable {n : Nat} {R : Type}

/-- The first argument of a placeholder is rendered at once; what it renders to is in front of the rest. -/
theorem Sized.supply_run_placeholder (render : Value → Except Fault String) (s : Sized (Except Fault) n R)
    (k : String → Curried (Except Fault) n R) (v : Value) :
    ((prepend (.placeholder render) s).run k).supply v =
      (render v).map fun head => s.run fun tail => k (head ++ tail) := by
  rw [run_prepend_placeholder, Callable.supply_succ]
  cases render v <;> rfl

/-- Supplying arguments to leaves joined from the right is walking them. -/
theorem leads_walk (ls : List (Leaf (Except Fault))) (k : String → Curried (Except Fault) n R) (front : String)
    (args : List Value) :
    Leads k (walk ls front args) (((Sized.ofLeaves ls).run fun tail => k (front ++ tail)).supplyAll args) := by
  induction ls generalizing front args with
  | nil => simp only [walk, Leads, Sized.ofLeaves, Sized.run_empty, String.append_empty]
  | cons l ls ih =>
    cases l with
    | literal text =>
      have h := ih (front ++ text) args
      simp only [String.append_assoc] at h
      exact h
    | placeholder render =>
      cases args with
      | nil => exact ⟨_, rfl, Nat.succ_pos _⟩
      | cons v vs =>
        have hs : ((Sized.ofLeaves (.placeholder render :: ls)).run fun tail => k (front ++ tail)).supply v =
            (render v).map fun head => (Sized.ofLeaves ls).run fun tail => k (front ++ (head ++ tail)) :=
          Sized.supply_run_placeholder render _ _ v
        rw [Callable.supplyAll_cons, hs, walk]
        cases render v with
        | error e => rfl
        | ok text =>
          have h := ih (front ++ text) vs
          simp only [String.append_assoc] at h
          exact h

/-- Supplying arguments to a format run with a callback is walking its leaves. -/
theorem Format.leads_run (t : Format (Except Fault)) (k : String → Curried (Except Fault) n R) (args : List Value) :
    Leads k (walk t.leaves "" args) ((t.run k).supplyAll args) := by
  have h := leads_walk t.leaves k "" args
  simp only [String.empty_append] at h
  rw [Format.run_eq_ofLeaves]
  exact h

/-! ## More leaves and more arguments -/

/-- The walk over further leaves from where arguments have carried a format. -/
def Reach.onward (ls : List (Leaf (Except Fault))) : Reach → Except Fault Reach
  | waiting => .ok .waiting
  | complete text surplus => walk ls text surplus

/-- Leaves after others are walked from where these were left. -/
theorem walk_append (ls ms : List (Leaf (Except Fault))) (front : String) (args : List Value) :
    walk (ls ++ ms) front args = walk ls front args >>= Reach.onward ms := by
  induction ls generalizing front args with
  | nil => rfl
  | cons l ls ih =>
    cases l with
    | literal text => exact ih (front ++ text) args
    | placeholder render =>
      cases args with
      | nil => rfl
      | cons v vs =>
        rw [List.cons_append, walk, walk]
        cases render v with
        | error e => rfl
        | ok text => exact ih (front ++ text) vs

/-- How far arguments carry a format when more come after them that it does not take. -/
def Reach.more (vs : List Value) : Reach → Reach
  | waiting => .waiting
  | complete text surplus => .complete text (surplus ++ vs)

/-- A walk that does not wait goes the same way with more arguments, which are all left over. -/
theorem walk_append_args {ls : List (Leaf (Except Fault))} {front : String} {args : List Value}
    (h : walk ls front args ≠ .ok .waiting) (more : List Value) :
    walk ls front (args ++ more) = (walk ls front args).map (Reach.more more) := by
  induction ls generalizing front args with
  | nil => rfl
  | cons l ls ih =>
    cases l with
    | literal text => exact ih h
    | placeholder render =>
      cases args with
      | nil => exact absurd rfl h
      | cons v vs =>
        rw [walk] at h
        rw [List.cons_append, walk, walk]
        cases hv : render v with
        | error e => rfl
        | ok text => rw [hv] at h; exact ih h

/-- A fault ends the walk, whatever arguments come after it. -/
theorem walk_append_of_error {ls : List (Leaf (Except Fault))} {front : String} {args : List Value} {fault : Fault}
    (h : walk ls front args = .error fault) (more : List Value) : walk ls front (args ++ more) = .error fault := by
  rw [walk_append_args (by rw [h]; nofun), h]
  rfl

/-- After the whole text all further arguments are left over. -/
theorem walk_append_of_complete {ls : List (Leaf (Except Fault))} {front text : String} {args surplus : List Value}
    (h : walk ls front args = .ok (.complete text surplus)) (more : List Value) :
    walk ls front (args ++ more) = .ok (.complete text (surplus ++ more)) := by
  rw [walk_append_args (by rw [h]; nofun), h]
  rfl

/-- The arguments that are left over are the last ones; those before them are just enough. -/
theorem walk_complete_used {ls : List (Leaf (Except Fault))} {front text : String} {args surplus : List Value}
    (h : walk ls front args = .ok (.complete text surplus)) :
    ∃ used, args = used ++ surplus ∧ walk ls front used = .ok (.complete text []) := by
  induction ls generalizing front args with
  | nil => cases h; exact ⟨[], rfl, rfl⟩
  | cons l ls ih =>
    cases l with
    | literal text => exact ih h
    | placeholder render =>
      cases args with
      | nil => cases h
      | cons v vs =>
        rw [walk] at h
        cases hv : render v with
        | error e => rw [hv] at h; cases h
        | ok text =>
          rw [hv] at h
          obtain ⟨used, rfl, hused⟩ := ih h
          exact ⟨v :: used, rfl, by rw [walk, hv]; exact hused⟩

/-- An argument for a placeholder that waits is not left over. -/
theorem surplus_eq_nil_of_waiting {ls : List (Leaf (Except Fault))} {front text : String} {args surplus : List Value}
    {v : Value} (hwait : walk ls front args = .ok .waiting)
    (h : walk ls front (args ++ [v]) = .ok (.complete text surplus)) : surplus = [] := by
  obtain ⟨used, hused, hdone⟩ := walk_complete_used h
  rcases List.eq_nil_or_concat surplus with rfl | ⟨rest, w, rfl⟩
  · rfl
  · have hargs : args = used ++ rest := by
      rw [List.concat_eq_append, ← List.append_assoc] at hused
      exact (List.append_inj' hused rfl).1
    rw [hargs, walk_append_of_complete hdone] at hwait
    cases hwait

/-- A fault that ends a walk comes from a placeholder of the walk. -/
theorem walk_eq_error {ls : List (Leaf (Except Fault))} {front : String} {args : List Value} {fault : Fault}
    (h : walk ls front args = .error fault) : ∃ p ∈ ls.filterMap Leaf.render?, ∃ v, p v = .error fault := by
  induction ls generalizing front args with
  | nil => cases h
  | cons l ls ih =>
    cases l with
    | literal text => exact ih h
    | placeholder render =>
      cases args with
      | nil => cases h
      | cons v vs =>
        rw [walk] at h
        cases hv : render v with
        | error e =>
          rw [hv] at h
          cases h
          exact ⟨render, List.mem_cons_self, v, hv⟩
        | ok text =>
          rw [hv] at h
          obtain ⟨p, hp, hpv⟩ := ih h
          exact ⟨p, List.mem_cons_of_mem render hp, hpv⟩

/-! ## The discharge by the walk -/

namespace Format

variable {t : Format (Except Fault)} {c : Chain String} {args : List Value}

/-- What arguments leave of the chain of a text, in terms of the walk. -/
theorem leads_sprintf (t : Format (Except Fault)) (args : List Value) :
    Leads (n := 0) id (walk t.leaves "" args) (t.sprintf.supplyAll args) := t.leads_run (n := 0) id args

/-- Where more arguments are awaited, the walk waits. -/
theorem walk_of_missing (h : t.sprintf.supplyAll args = .ok c) (hc : 0 < c.missing) :
    walk t.leaves "" args = .ok .waiting := by
  have hl := t.leads_sprintf args
  rw [h] at hl
  cases hw : walk t.leaves "" args with
  | error e => rw [hw] at hl; cases hl
  | ok reach =>
    rw [hw] at hl
    cases reach with
    | waiting => rfl
    | complete text surplus =>
      cases surplus with
      | nil => cases hl; exact absurd hc (Nat.lt_irrefl 0)
      | cons v vs => cases hl

/-- Where there is a text, the walk has come to it. -/
theorem walk_of_finished {text : String} (h : t.sprintf.supplyAll args = .ok (.finished text)) :
    walk t.leaves "" args = .ok (.complete text []) := by
  have hl := t.leads_sprintf args
  rw [h] at hl
  cases hw : walk t.leaves "" args with
  | error e => rw [hw] at hl; cases hl
  | ok reach =>
    rw [hw] at hl
    cases reach with
    | waiting =>
      obtain ⟨d, hd, hmissing⟩ := hl
      cases hd
      exact absurd hmissing (Nat.lt_irrefl 0)
    | complete whole surplus =>
      cases surplus with
      | nil => cases hl; rfl
      | cons v vs => cases hl

/-- Where an argument that is awaited is refused, the walk ends with the same fault. -/
theorem walk_of_refused {v : Value} {fault : Fault} (h : t.sprintf.supplyAll args = .ok c) (hc : 0 < c.missing)
    (hv : c.supply v = .error fault) (later : List Value) : walk t.leaves "" (args ++ v :: later) = .error fault := by
  have hwait := walk_of_missing h hc
  have hone : walk t.leaves "" (args ++ [v]) = .error fault := by
    have hl := t.leads_sprintf (args ++ [v])
    rw [Callable.supplyAll_of_refused h hv] at hl
    cases hw : walk t.leaves "" (args ++ [v]) with
    | error e => rw [hw] at hl; cases hl; rfl
    | ok reach =>
      rw [hw] at hl
      cases reach with
      | waiting => obtain ⟨d, hd, -⟩ := hl; cases hd
      | complete text surplus =>
        rw [surplus_eq_nil_of_waiting hwait hw] at hl
        cases hl
  rw [List.append_cons]
  exact walk_append_of_error hone later

end Format

/-! ## The answer of a discharge -/

/-- Formats with the same chain of their text give the same answer, on whatever route the arguments are supplied. -/
theorem Format.discharge_eq_of_sprintf_eq {t u : Format (Except Fault)} (h : t.sprintf = u.sprintf) (route : Route)
    (args : List Value) : t.discharge route args = u.discharge route args := by
  rw [discharge, h]
  rfl

/-- So do formats with the same leaves. -/
theorem Format.discharge_eq_of_leaves_eq {t u : Format (Except Fault)} (h : t.leaves = u.leaves) (route : Route)
    (args : List Value) : t.discharge route args = u.discharge route args :=
  discharge_eq_of_sprintf_eq (run_eq_of_leaves_eq (n := 0) (R := String) h id) route args

/-- The answer that arguments which reach so far get: a finished text takes no argument that is left over. -/
def Reach.answer : Reach → Except Fault Result
  | waiting => .ok .callable
  | complete text [] => .ok (.text text)
  | complete _ (_ :: _) => .error .tooManyArguments

/-- A chain that takes more arguments is answered as such. -/
theorem textResult_of_missing {c : Chain String} (h : 0 < c.missing) : textResult c = .callable := by
  obtain ⟨missing, chain⟩ := c
  cases missing with
  | zero => exact absurd h (Nat.lt_irrefl 0)
  | succ missing => rfl

/-- The answer of a discharge, argument by argument, is that of the walk over the leaves. -/
theorem Format.discharge_stepwise_eq_walk (t : Format (Except Fault)) (args : List Value) :
    t.discharge .stepwise args = (walk t.leaves "" args >>= Reach.answer).mapError .fault := by
  have hd : t.discharge .stepwise args = ((t.sprintf.supplyAll args).mapError .fault).map textResult := rfl
  have hl := t.leads_sprintf args
  rw [hd]
  cases hw : walk t.leaves "" args with
  | error e =>
    rw [hw] at hl
    have hr : t.sprintf.supplyAll args = .error e := hl
    rw [hr]
    rfl
  | ok reach =>
    rw [hw] at hl
    cases reach with
    | waiting =>
      obtain ⟨c, hc, hm⟩ := hl
      rw [hc]
      exact congrArg Except.ok (textResult_of_missing hm)
    | complete text surplus =>
      have hr : t.sprintf.supplyAll args = Callable.supplyAll (⟨0, text⟩ : Chain String) surplus := hl
      rw [hr]
      cases surplus <;> rfl

end TypedFormat

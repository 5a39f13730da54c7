import TypedFormat.Proofs.Discharge.Leaves
import TypedFormat.Proofs.Discharge.Supplying

/-!
# The conclusion of a chain

`Callable.conclude` puts a callback at the end of a chain that gives a text: the chain takes the same arguments, and then goes
on as the callback says. Running a format with a callback leaves just the chain of the format's text with the callback at its
end (`Format.run_eq_conclude`), although the callback is passed on through all of the format.

So as long as the chain of the text takes arguments, the one with the callback takes them with the same outcome
(`Callable.supplyAll_conclude`).
-/

namespace TypedFormat

variable {f : Type → Type} {n : Nat} {R : Type}

/-- A chain that gives a text, with a callback at its end. -/
def Curried.conclude [Functor f] (k : String → Curried f n R) : (m : Nat) → Curried f m String → Curried f (n + m) R
  | 0, text => k text
  | m + 1, chain => fun v => conclude k m <$> (show f (Curried f m String) from chain v)

/-- A chain that gives a text, with a callback at its end and the number of its layers. -/
def Callable.conclude [Functor f] (c : Callable f String) (k : String → Curried f n R) : Callable f R :=
  ⟨n + c.missing, Curried.conclude k c.missing c.chain⟩

/-! ## Running with a callback -/

/-- A placeholder in front of chains that agree whatever it renders to. -/
theorem Callable.mk_succ_congr [Functor f] {l m : Nat} {a : String → Curried f l R} {b : String → Curried f m R}
    (h : ∀ head, (⟨l, a head⟩ : Callable f R) = ⟨m, b head⟩) (render : Value → f String) :
    (⟨l + 1, fun v => a <$> render v⟩ : Callable f R) = ⟨m + 1, fun v => b <$> render v⟩ := by
  have hlen : l = m := congrArg Callable.missing (h "")
  subst hlen
  have hab : a = b := funext fun head => eq_of_heq (Callable.mk.inj (h head)).2
  rw [hab]

/-- Leaves joined from the right, run with a callback, are the chain of their text with the callback at its end. -/
theorem Sized.run_ofLeaves_eq_conclude [Functor f] [LawfulFunctor f] (ls : List (Leaf f)) (k : String → Curried f n R)
    (front : String) :
    ((ofLeaves ls : Sized f n R).run fun tail => k (front ++ tail)) =
      ((ofLeaves ls : Sized f 0 String).run fun tail => front ++ tail).conclude k := by
  induction ls generalizing front with
  | nil => rfl
  | cons l ls ih =>
    cases l with
    | literal text =>
      have h := ih (front ++ text)
      simp only [String.append_assoc] at h
      exact h
    | placeholder render =>
      have h : ∀ head, ((ofLeaves ls : Sized f n R).run fun tail => k (front ++ (head ++ tail))) =
          ((ofLeaves ls : Sized f 0 String).run fun tail => front ++ (head ++ tail)).conclude k := by
        intro head
        have hi := ih (front ++ head)
        simp only [String.append_assoc] at hi
        exact hi
      -- The lengths of both chains are equal only by the induction, so their layers are compared together with these.
      have hlayer := Callable.mk_succ_congr
        (a := fun head => (ofLeaves ls : Sized f n R).spec.run fun tail => k (front ++ (head ++ tail)))
        (b := fun head => Curried.conclude k _ ((ofLeaves ls : Sized f 0 String).spec.run fun tail =>
          front ++ (head ++ tail))) h render
      refine hlayer.trans (congrArg (Callable.mk _) (funext fun v => ?_))
      exact LawfulFunctor.comp_map _ _ (render v)

/-- Running a format with a callback puts the callback at the end of the chain of its text. -/
theorem Format.run_eq_conclude [Functor f] [LawfulFunctor f] (t : Format f) (k : String → Curried f n R) :
    t.run k = t.sprintf.conclude k := by
  have h := Sized.run_ofLeaves_eq_conclude t.leaves k ""
  simp only [String.empty_append] at h
  have hs : t.sprintf = (Sized.ofLeaves t.leaves : Sized f 0 String).run fun tail => tail :=
    t.run_eq_ofLeaves (n := 0) (R := String) id
  rw [t.run_eq_ofLeaves k, hs]
  exact h

/-! ## Supplying arguments -/

namespace Callable

/-- A chain that waits takes an argument alike with a callback at its end. -/
theorem supply_conclude {c : Chain String} (hc : 0 < c.missing) (k : String → Curried (Except Fault) n R) (v : Value) :
    (c.conclude k).supply v = (c.supply v).map fun d => d.conclude k := by
  obtain ⟨missing, chain⟩ := c
  cases missing with
  | zero => exact absurd hc (Nat.lt_irrefl 0)
  | succ m =>
    have hk : supply (conclude ⟨m + 1, chain⟩ k) v =
        ((show Except Fault (Curried (Except Fault) m String) from chain v).map (Curried.conclude k m)).map
          fun rest => ⟨n + m, rest⟩ := rfl
    have hs : supply (⟨m + 1, chain⟩ : Chain String) v =
        (show Except Fault (Curried (Except Fault) m String) from chain v).map fun rest => ⟨m, rest⟩ := rfl
    rw [hk, hs]
    cases (show Except Fault (Curried (Except Fault) m String) from chain v) <;> rfl

/-- As long as a chain takes arguments, it takes them alike with a callback at its end. -/
theorem supplyAll_conclude {c : Chain String} {vs : List Value} (hc : vs.length ≤ c.missing)
    (k : String → Curried (Except Fault) n R) :
    (c.conclude k).supplyAll vs = (c.supplyAll vs).map fun d => d.conclude k := by
  induction vs generalizing c with
  | nil => rfl
  | cons v vs ih =>
    have hpos : 0 < c.missing := Nat.lt_of_lt_of_le (Nat.succ_pos _) hc
    rw [supplyAll_cons, supplyAll_cons, supply_conclude hpos]
    cases hv : c.supply v with
    | error e => rfl
    | ok d =>
      have hmissing := missing_of_supply hv
      rw [List.length_cons] at hc
      exact ih (by omega)

/-- What arguments leave of a chain, they leave of it with a callback at its end. -/
theorem supplyAll_conclude_of_ok {c d : Chain String} {vs : List Value} (h : c.supplyAll vs = .ok d)
    (k : String → Curried (Except Fault) n R) : (c.conclude k).supplyAll vs = .ok (d.conclude k) := by
  have hmissing := missing_of_supplyAll h
  rw [supplyAll_conclude (by omega) k, h]
  rfl

end Callable

end TypedFormat

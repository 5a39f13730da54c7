import TypedFormat.Discharge

/-!
# Supplying arguments

Facts about any chain, whatever function it is made of. Arguments are supplied in parts like all at once
(`Callable.supplyAll_append`), an argument that is refused ends the supplying whatever comes after it
(`Callable.supplyAll_of_refused`), and every argument takes one layer off the chain (`Callable.missing_of_supplyAll`).
-/

namespace TypedFormat.Callable

variable {R : Type} {c d : Chain R}

/-- More arguments are supplied to what the first ones leave. -/
theorem supplyAll_append (c : Chain R) (vs ws : List Value) :
    c.supplyAll (vs ++ ws) = c.supplyAll vs >>= fun d => d.supplyAll ws := List.foldlM_append

/-- A single argument is supplied by itself. -/
theorem supplyAll_singleton (c : Chain R) (v : Value) : c.supplyAll [v] = c.supply v := by
  rw [supplyAll_cons]
  cases c.supply v <;> rfl

/-- What the first arguments leave is supplied with the others. -/
theorem supplyAll_append_of_ok {vs : List Value} (h : c.supplyAll vs = .ok d) (ws : List Value) :
    c.supplyAll (vs ++ ws) = d.supplyAll ws := by
  rw [supplyAll_append, h]
  rfl

/-- The first argument that is refused decides, whatever comes after it. -/
theorem supplyAll_of_refused {before : List Value} {v : Value} {fault : Fault} (h : c.supplyAll before = .ok d)
    (hv : d.supply v = .error fault) (later : List Value) : c.supplyAll (before ++ v :: later) = .error fault := by
  rw [supplyAll_append_of_ok h, supplyAll_cons, hv]
  rfl

/-- An argument that is accepted takes one layer off the chain. -/
theorem missing_of_supply {v : Value} (h : c.supply v = .ok d) : d.missing + 1 = c.missing := by
  obtain ⟨missing, chain⟩ := c
  cases missing with
  | zero => cases h
  | succ n =>
    have hmap : (show Except Fault (Curried (Except Fault) n R) from chain v).map (fun rest => (⟨n, rest⟩ : Chain R)) =
        .ok d := h
    obtain ⟨rest, -, rfl⟩ := map_eq_ok_iff.1 hmap
    rfl

/-- Arguments that are accepted take a layer each off the chain. -/
theorem missing_of_supplyAll {vs : List Value} (h : c.supplyAll vs = .ok d) : d.missing + vs.length = c.missing := by
  induction vs generalizing c with
  | nil => cases h; rfl
  | cons v vs ih =>
    rw [supplyAll_cons] at h
    obtain ⟨e, hv, hvs⟩ := bind_eq_ok_iff.1 h
    have hfirst := missing_of_supply hv
    have hrest := ih hvs
    rw [List.length_cons]
    omega

end TypedFormat.Callable

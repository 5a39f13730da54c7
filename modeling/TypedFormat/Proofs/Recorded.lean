import TypedFormat.Discharge

/-!
# Steps with a record

`Recorded ε α` is a step that comes to an `α` or to a fault, together with the events `ε` that happened in it. Steps follow
each other as long as there is no fault; their events are put one after the other, and a fault does not undo those before it.

A chain whose layers are such steps is supplied with arguments like any other (`Recorded.supplyAll`). Forgetting the events
leaves a plain chain (`Callable.erase`), and supplying arguments is the same before and after forgetting
(`Recorded.erase_supplyAll`).

The renderers of a format can be such steps (`Format (Recorded ε)`), and then running the format with a callback is read as a
step itself (`Format.acting`). Forgetting the events of the renderers and of the callback gives the run of the format that is
left (`Format.erase_acting`). Renderers in which nothing happens take a plain format to a format with steps
(`Format.silent`), and forgetting takes it back (`Format.erase_silent`).
-/

namespace TypedFormat

/-- What a step comes to, and what happened in it. -/
structure Recorded (ε α : Type) where
  outcome : Except Fault α
  events : List ε

variable {ε α β γ R : Type}

namespace Recorded

/-- A step in which nothing happens that is recorded. -/
def silent (x : Except Fault α) : Recorded ε α := ⟨x, []⟩

/-- A step followed by another that needs its result; a fault ends them. -/
def followedBy (x : Recorded ε α) (next : α → Recorded ε β) : Recorded ε β :=
  match x.outcome with
  | .error e => ⟨.error e, x.events⟩
  | .ok a => ⟨(next a).outcome, x.events ++ (next a).events⟩

instance : Monad (Recorded ε) where
  pure a := silent (.ok a)
  bind := followedBy

@[simp] theorem outcome_silent (x : Except Fault α) : (silent x : Recorded ε α).outcome = x := rfl

@[simp] theorem outcome_bind (x : Recorded ε α) (next : α → Recorded ε β) :
    (x >>= next).outcome = x.outcome >>= fun a => (next a).outcome := by
  obtain ⟨outcome, events⟩ := x
  cases outcome <;> rfl

/-- A step whose result is changed comes to the changed result, and the same happens in it. -/
@[simp] theorem outcome_map (g : α → β) (x : Recorded ε α) : (g <$> x).outcome = x.outcome.map g := by
  obtain ⟨outcome, events⟩ := x
  cases outcome <;> rfl

@[simp] theorem events_map (g : α → β) (x : Recorded ε α) : (g <$> x).events = x.events := by
  obtain ⟨outcome, events⟩ := x
  cases outcome with
  | error e => rfl
  | ok a => exact List.append_nil events

/-- A step that only gives on the result changes nothing. -/
theorem followedBy_silent (x : Recorded ε α) : (x.followedBy fun a => silent (.ok a)) = x := by
  obtain ⟨outcome, events⟩ := x
  cases outcome with
  | error e => rfl
  | ok a => exact congrArg (mk (.ok a)) (List.append_nil events)

/-- Three steps follow each other alike, whichever two are taken together. -/
theorem followedBy_assoc (x : Recorded ε α) (next : α → Recorded ε β) (last : β → Recorded ε γ) :
    (x.followedBy next).followedBy last = x.followedBy fun a => (next a).followedBy last := by
  have hpre : ∀ (events : List ε) (y : Recorded ε β), followedBy ⟨y.outcome, events ++ y.events⟩ last =
      ⟨(y.followedBy last).outcome, events ++ (y.followedBy last).events⟩ := by
    rintro events ⟨outcome, after⟩
    cases outcome with
    | error e => rfl
    | ok b => exact congrArg (mk _) (List.append_assoc _ _ _)
  obtain ⟨outcome, events⟩ := x
  cases outcome with
  | error e => rfl
  | ok a => exact hpre events (next a)

instance : LawfulMonad (Recorded ε) := LawfulMonad.mk' (Recorded ε) followedBy_silent (fun _ _ => rfl) followedBy_assoc

end Recorded

/-! ## Chains whose layers are recorded -/

namespace Curried

/-- What a chain leaves after one more argument. -/
def layer {f : Type → Type} {n : Nat} (c : Curried f (n + 1) R) (v : Value) : f (Curried f n R) := c v

/-- The chain without what happens in its layers. -/
def erase : (n : Nat) → Curried (Recorded ε) n R → Curried (Except Fault) n R
  | 0, r => r
  | n + 1, chain => fun v => (chain.layer v).outcome.map (erase n)

/-- The chain with layers in which nothing happens. -/
def silent : (n : Nat) → Curried (Except Fault) n R → Curried (Recorded ε) n R
  | 0, r => r
  | n + 1, chain => fun v => silent n <$> Recorded.silent (chain.layer v)

/-- Layers in which nothing happens are the layers that they were made from. -/
theorem erase_silent (n : Nat) (c : Curried (Except Fault) n R) : erase n (silent n c : Curried (Recorded ε) n R) = c := by
  induction n with
  | zero => rfl
  | succ n ih =>
    funext v
    have hv : (silent (n + 1) c : Curried (Recorded ε) (n + 1) R).layer v = silent n <$> Recorded.silent (layer c v) := rfl
    have he : erase (n + 1) (silent (n + 1) c : Curried (Recorded ε) (n + 1) R) v =
        ((silent (n + 1) c : Curried (Recorded ε) (n + 1) R).layer v).outcome.map (erase n) := rfl
    have hc : c v = layer c v := rfl
    rw [he, hv, Recorded.outcome_map, hc, Recorded.outcome_silent]
    cases layer c v with
    | error e => rfl
    | ok rest => exact congrArg Except.ok (ih rest)

end Curried

/-- The chain without what happens in its layers, with the number of them. -/
def Callable.erase (c : Callable (Recorded ε) R) : Chain R := ⟨c.missing, Curried.erase c.missing c.chain⟩

namespace Recorded

/-- The chain after one more argument. -/
def supply (c : Callable (Recorded ε) R) (v : Value) : Recorded ε (Callable (Recorded ε) R) :=
  (c.supply? v).getD (silent (.error .tooManyArguments))

/-- The chain after more arguments, from left to right. -/
def supplyAll (c : Callable (Recorded ε) R) (vs : List Value) : Recorded ε (Callable (Recorded ε) R) := vs.foldlM supply c

/-- A layer that is left is applied to the argument. -/
theorem supply_succ {n : Nat} (chain : Curried (Recorded ε) (n + 1) R) (v : Value) :
    supply (⟨n + 1, chain⟩ : Callable (Recorded ε) R) v = (fun rest => ⟨n, rest⟩) <$> chain.layer v := rfl

theorem supplyAll_cons (c : Callable (Recorded ε) R) (v : Value) (vs : List Value) :
    supplyAll c (v :: vs) = supply c v >>= fun d => supplyAll d vs := List.foldlM_cons

/-- One argument more is supplied to what the others leave. -/
theorem supplyAll_concat (c : Callable (Recorded ε) R) (vs : List Value) (v : Value) :
    supplyAll c (vs ++ [v]) = supplyAll c vs >>= fun d => supply d v := by
  rw [supplyAll, List.foldlM_append]
  exact bind_congr fun d => List.foldlM_cons.trans (bind_pure _)

/-- An argument has the same effect before and after the events are forgotten. -/
theorem erase_supply (c : Callable (Recorded ε) R) (v : Value) :
    (supply c v).outcome.map Callable.erase = c.erase.supply v := by
  obtain ⟨missing, chain⟩ := c
  cases missing with
  | zero => rfl
  | succ n =>
    have he : (Callable.erase ⟨n + 1, chain⟩).supply v =
        ((chain.layer v).outcome.map (Curried.erase n)).map fun rest => ⟨n, rest⟩ := rfl
    rw [supply_succ, outcome_map, he]
    cases (chain.layer v).outcome <;> rfl

/-- Arguments have the same effect before and after the events are forgotten. -/
theorem erase_supplyAll (c : Callable (Recorded ε) R) (vs : List Value) :
    (supplyAll c vs).outcome.map Callable.erase = c.erase.supplyAll vs := by
  induction vs generalizing c with
  | nil => rfl
  | cons v vs ih =>
    rw [supplyAll_cons, Callable.supplyAll_cons, outcome_bind, ← erase_supply]
    cases (supply c v).outcome with
    | error e => rfl
    | ok d => exact ih d

/-- Nothing happens when arguments are supplied to layers in which nothing happens. -/
theorem events_supplyAll_silent (n : Nat) (c : Curried (Except Fault) n R) (vs : List Value) :
    (supplyAll ⟨n, (Curried.silent n c : Curried (Recorded ε) n R)⟩ vs).events = [] := by
  induction vs generalizing n with
  | nil => rfl
  | cons v vs ih =>
    cases n with
    | zero => rfl
    | succ n =>
      have hv : (Curried.silent (n + 1) c : Curried (Recorded ε) (n + 1) R).layer v =
          Curried.silent n <$> silent (Curried.layer c v) := rfl
      rw [supplyAll_cons, supply_succ, bind_map_left, hv, bind_map_left]
      cases Curried.layer c v with
      | error e => rfl
      | ok rest => exact ih n rest

end Recorded

/-! ## Formats whose renderers are recorded -/

namespace Format

/-- The format with renderers whose events are forgotten. -/
def erase : Format (Recorded ε) → Format (Except Fault)
  | literal text => .literal text
  | placeholder render => .placeholder fun v => (render v).outcome
  | join left way right => left.erase.join way right.erase

/-- The format with renderers in which nothing happens. -/
def silent : Format (Except Fault) → Format (Recorded ε)
  | literal text => .literal text
  | placeholder render => .placeholder fun v => Recorded.silent (render v)
  | join left way right => left.silent.join way right.silent

/-- Renderers in which nothing happens are the renderers that they were made from. -/
theorem erase_silent (t : Format (Except Fault)) : (t.silent : Format (Recorded ε)).erase = t := by
  induction t with
  | literal text => rfl
  | placeholder render => rfl
  | join left way right ihl ihr => rw [silent, erase, ihl, ihr]

/-- The format read with steps for results. A placeholder gives a function that renders its argument and then calls its
callback. -/
def acting : (t : Format (Recorded ε)) → (n : Nat) →
    Spec (Recorded ε (Curried (Recorded ε) n R)) (Recorded ε (Curried (Recorded ε) (t.layers n) R))
  | literal text, _ => Spec.literal text
  | placeholder render, _ => ⟨fun k => pure fun v => (Spec.placeholder render).run k v >>= id⟩
  | join left way right, n => (left.acting (right.layers n)).join way (right.acting n)

/-- What a placeholder gives takes an argument, renders it and calls the callback. -/
theorem layer_acting (render : Value → Recorded ε String) (k : String → Recorded ε β) (v : Value) :
    ((Spec.placeholder render).run k v >>= id) = render v >>= k := by
  rw [Spec.run_placeholder, bind_map_left]
  rfl

/-- Without what happens, a format run as a step is the format: where the callback's steps come to the results of a plain
callback, so does the whole. -/
theorem erase_acting (t : Format (Recorded ε)) {n m : Nat} {k : String → Recorded ε (Curried (Recorded ε) n R)}
    {plain : String → Curried (Except Fault) m R}
    (h : ∀ text, (k text).outcome.map (fun chain => Callable.erase ⟨n, chain⟩) = .ok ⟨m, plain text⟩) :
    ((t.acting n).run k).outcome.map (fun chain => Callable.erase ⟨t.layers n, chain⟩) = .ok (t.erase.run plain) := by
  induction t generalizing n m with
  | literal text => exact h text
  | placeholder render =>
    -- A callback leaves as many layers before as after forgetting.
    obtain ⟨chain, -, hchain⟩ := map_eq_ok_iff.1 (h "")
    obtain rfl : n = m := congrArg Callable.missing hchain
    refine congrArg (fun chain => Except.ok (Callable.mk (n + 1) chain)) (funext fun v => ?_)
    change ((Spec.placeholder render).run k v >>= id).outcome.map (Curried.erase n) = plain <$> (render v).outcome
    rw [layer_acting, Recorded.outcome_bind]
    cases (render v).outcome with
    | error e => rfl
    | ok text =>
      obtain ⟨rest, hrest, hsame⟩ := map_eq_ok_iff.1 (h text)
      have herase : Curried.erase n rest = plain text := eq_of_heq (Callable.mk.inj hsame).2
      exact (congrArg (Except.map (Curried.erase n)) hrest).trans (congrArg Except.ok herase)
  | join left way right ihl ihr =>
    simp only [acting, erase, run, spec, Spec.join_eq_cat, Spec.run_cat]
    exact ihl fun head => ihr fun tail => h (head ++ tail)

end Format

end TypedFormat

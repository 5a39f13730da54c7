import TypedFormat.Renderer
import TypedFormat.Proofs.Discharge.Stages

/-!
# Chains used again and again

On a workbench formats are made and run, and whatever chain was obtained so far can be applied to an argument, as often as one
likes and in any order. An action that fails leaves the workbench as it was. Each chain is held with the format and the callback
that it was run from and with the path of the arguments since; nothing of that is looked at when it is applied.

Every chain is one that its own path leads to (`Workbench.Sound`), and no action changes that (`Workbench.Sound.step`). So what an
application does, and the text at the end, depend on the path alone, and the log of all events is that of one rendering for
each application (`Workbench.Sound.log_steps`). `Workbench.renders_once` puts this together.
-/

namespace TypedFormat

variable {ε R : Type}

/-- A chain at hand, and where it comes from: the format that was run, the callback, and the arguments it was applied to since. -/
structure Held (ε R : Type) where
  format : Format (Recorded ε)
  callback : String → R
  path : List Value
  chain : Callable (Recorded ε) R

/-- The formats and the chains obtained so far, from the oldest on. -/
structure Workbench (ε R : Type) where
  formats : List (Format (Recorded ε)) := []
  held : List (Held ε R) := []

/-- What can be done; formats and chains are named by their places. A discharge is a run whose callback gives the text itself. -/
inductive Action (ε R : Type) where
  | literal (text : String)
  | placeholder (render : Value → Recorded ε String)
  | join (left : Nat) (way : Spec.Joining) (right : Nat)
  | clone (format : Nat)
  | run (format : Nat) (callback : String → R)
  | apply (chain : Nat) (v : Value)

namespace Workbench

/-- The workbench with one more format. -/
def store (w : Workbench ε R) (t : Format (Recorded ε)) : Workbench ε R := { w with formats := w.formats ++ [t] }

/-- The workbench with one more chain. -/
def hold (w : Workbench ε R) (h : Held ε R) : Workbench ε R := { w with held := w.held ++ [h] }

/-- The workbench after an action, with what happens in it. An action on a place where there is nothing does nothing. -/
def act (w : Workbench ε R) : Action ε R → Recorded ε (Workbench ε R)
  | .literal text => pure (w.store (.literal text))
  | .placeholder render => pure (w.store (.placeholder render))
  | .join i way j =>
    match w.formats[i]?, w.formats[j]? with
    | some left, some right => pure (w.store (left.join way right))
    | _, _ => pure w
  | .clone i =>
    match w.formats[i]? with
    | some t => pure (w.store t)
    | none => pure w
  | .run i k =>
    match w.formats[i]? with
    | some t => do
      let chain ← t.start k
      pure (w.hold ⟨t, k, [], chain⟩)
    | none => pure w
  | .apply j v =>
    match w.held[j]? with
    | some h => do
      let chain ← Recorded.supply h.chain v
      pure (w.hold { h with path := h.path ++ [v], chain := chain })
    | none => pure w

/-- The workbench after an action and the events in it. A fault leaves the workbench as it was. -/
def step (w : Workbench ε R) (a : Action ε R) : Workbench ε R × List ε :=
  match w.act a with
  | ⟨.ok w', events⟩ => (w', events)
  | ⟨.error _, events⟩ => (w, events)

/-- The workbench after all the actions, and the log of their events. -/
def steps (w : Workbench ε R) : List (Action ε R) → Workbench ε R × List ε
  | [] => (w, [])
  | a :: as =>
    let (w, events) := w.step a
    let (w, log) := w.steps as
    (w, events ++ log)

/-- The renderer that an action asks for, with the argument: an application asks for that of the next placeholder. -/
def application (w : Workbench ε R) : Action ε R → Option ((Value → Recorded ε String) × Value)
  | .apply j v => w.held[j]?.bind fun h => h.format.placeholders[h.path.length]?.map fun p => (p, v)
  | _ => none

/-- The renderers that the actions ask for one after the other. -/
def applications (w : Workbench ε R) : List (Action ε R) → List ((Value → Recorded ε String) × Value)
  | [] => []
  | a :: as => (w.application a).toList ++ applications (w.step a).1 as

theorem steps_cons (w : Workbench ε R) (a : Action ε R) (as : List (Action ε R)) :
    w.steps (a :: as) = (((w.step a).1.steps as).1, (w.step a).2 ++ ((w.step a).1.steps as).2) := rfl

/-! ## Single actions -/

variable {w : Workbench ε R} {a : Action ε R}

theorem step_eq (w : Workbench ε R) (a : Action ε R) :
    w.step a = ((w.act a).outcome.toOption.getD w, (w.act a).events) := by
  rw [step]
  cases w.act a with
  | mk outcome events => cases outcome <;> rfl

/-- An application supplies the argument to the chain, and holds what that leaves. -/
theorem act_apply {j : Nat} {h : Held ε R} (hj : w.held[j]? = some h) (v : Value) :
    w.act (.apply j v) =
      (fun chain => w.hold { h with path := h.path ++ [v], chain := chain }) <$> Recorded.supply h.chain v := by
  rw [act, hj]
  exact bind_pure_comp _ _

/-- There are three kinds of actions: formats are added, the chain of a format is held, or a chain is applied. Nothing happens in
the first two. -/
theorem act_cases (w : Workbench ε R) (a : Action ε R) :
    (w.application a = none ∧ ∃ ts, w.act a = pure { w with formats := w.formats ++ ts }) ∨
    (w.application a = none ∧ ∃ t k, w.act a = pure (w.hold ⟨t, k, [], t.run (n := 0) k⟩)) ∨
    ∃ j v h, a = .apply j v ∧ w.held[j]? = some h := by
  have hnone : ({ w with formats := w.formats ++ [] } : Workbench ε R) = w := by rw [List.append_nil]
  cases a with
  | literal text => exact .inl ⟨rfl, [.literal text], rfl⟩
  | placeholder render => exact .inl ⟨rfl, [.placeholder render], rfl⟩
  | join i way j =>
    rw [act]
    split
    next left right _ _ => exact .inl ⟨rfl, [left.join way right], rfl⟩
    next => exact .inl ⟨rfl, [], congrArg pure hnone.symm⟩
  | clone i =>
    rw [act]
    split
    next t _ => exact .inl ⟨rfl, [t], rfl⟩
    next => exact .inl ⟨rfl, [], congrArg pure hnone.symm⟩
  | run i k =>
    rw [act]
    split
    next t _ => exact .inr (.inl ⟨rfl, t, k, (congrArg (· >>= _) (t.start_eq k)).trans (pure_bind _ _)⟩)
    next => exact .inl ⟨rfl, [], congrArg pure hnone.symm⟩
  | apply j v =>
    cases hj : w.held[j]? with
    | some h => exact .inr (.inr ⟨j, v, h, rfl, hj⟩)
    | none =>
      refine .inl ⟨?_, [], ?_⟩
      · rw [application, hj]
        rfl
      · rw [act, hj, hnone]

/-- What was held stays where it was. -/
theorem held_step (w : Workbench ε R) (a : Action ε R) : w.held <+: (w.step a).1.held := by
  rcases w.act_cases a with ⟨-, ts, hact⟩ | ⟨-, t, k, hact⟩ | ⟨j, v, h, rfl, hj⟩
  · rw [step_eq, hact]
    exact List.prefix_refl _
  · rw [step_eq, hact]
    exact List.prefix_append _ _
  · rw [step_eq, act_apply hj, Recorded.outcome_map]
    cases (Recorded.supply h.chain v).outcome with
    | error e => exact List.prefix_refl _
    | ok chain => exact List.prefix_append _ _

/-- Every chain is one that its path leads to. -/
def Sound (w : Workbench ε R) : Prop := ∀ h ∈ w.held, h.format.Reaches h.callback h.path h.chain

/-- One more chain that its path leads to. -/
theorem Sound.hold (hw : w.Sound) {h : Held ε R} (hh : h.format.Reaches h.callback h.path h.chain) : (w.hold h).Sound := by
  intro g hg
  rcases List.mem_append.1 hg with hg | hg
  · exact hw g hg
  · rw [List.mem_singleton.1 hg]
    exact hh

/-- Every action keeps that, whether it fails or not. -/
theorem Sound.step (hw : w.Sound) (a : Action ε R) : (w.step a).1.Sound := by
  rcases w.act_cases a with ⟨-, ts, hact⟩ | ⟨-, t, k, hact⟩ | ⟨j, v, h, rfl, hj⟩
  · rw [step_eq, hact]
    exact hw
  · rw [step_eq, hact]
    exact hw.hold (.run t k)
  · rw [step_eq, act_apply hj, Recorded.outcome_map]
    cases hd : (Recorded.supply h.chain v).outcome with
    | error e => exact hw
    | ok chain => exact hw.hold ((hw h (List.mem_of_getElem? hj)).next hd)

/-- All that happens in an action is the rendering that it asks for. -/
theorem Sound.events_step (hw : w.Sound) (a : Action ε R) :
    (w.step a).2 = (w.application a).toList.flatMap fun i => (i.1 i.2).events := by
  rcases w.act_cases a with ⟨hnone, ts, hact⟩ | ⟨hnone, t, k, hact⟩ | ⟨j, v, h, rfl, hj⟩
  · rw [step_eq, hact, hnone]
    rfl
  · rw [step_eq, hact, hnone]
    rfl
  · rw [step_eq, act_apply hj, Recorded.events_map, (hw h (List.mem_of_getElem? hj)).events_supply, application, hj,
      Option.bind_some]
    cases h.format.placeholders[h.path.length]? with
    | none => rfl
    | some p => exact (List.append_nil (p v).events).symm

/-! ## All actions -/

/-- What was held stays where it was. -/
theorem held_steps (w : Workbench ε R) (as : List (Action ε R)) : w.held <+: (w.steps as).1.held := by
  induction as generalizing w with
  | nil => exact List.prefix_refl _
  | cons a as ih => exact (w.held_step a).trans (ih _)

/-- After any actions, every chain is one that its path leads to. -/
theorem Sound.steps (hw : w.Sound) (as : List (Action ε R)) : (w.steps as).1.Sound := by
  induction as generalizing w with
  | nil => exact hw
  | cons a as ih => exact ih (hw.step a)

/-- The log is that of the renderings that the actions ask for, one for each application. -/
theorem Sound.log_steps (hw : w.Sound) (as : List (Action ε R)) :
    (w.steps as).2 = (w.applications as).flatMap fun i => (i.1 i.2).events := by
  induction as generalizing w with
  | nil => rfl
  | cons a as ih =>
    rw [steps_cons, applications, List.flatMap_append, hw.events_step, ih (hw.step a)]

/-- Rendering is eager and happens once, and chains can be used again. Whatever was done so far:

Making, cloning and running formats renders nothing. Applying a chain renders the argument by the next placeholder of its format,
and all that happens in the application is that one rendering; it fails exactly when the rendering fails, and otherwise it
obtains a chain of the longer path. So the log of everything done is one rendering after the other, one for each application.

Each chain obtained so far is what its own path leaves of its format, and it stays at hand unchanged, whatever is done with it or
with others. When its path is complete, it is the callback's result for the text that its format is discharged to on that path. -/
theorem renders_once (as : List (Action ε R)) :
    let w : Workbench ε R := (steps {} as).1
    (∀ (u : Workbench ε R) (a : Action ε R), (∀ j v, a ≠ .apply j v) →
      (u.act a).events = [] ∧ ∃ u', (u.act a).outcome = .ok u') ∧
    (∀ j h, w.held[j]? = some h → ∀ p, h.format.placeholders[h.path.length]? = some p → ∀ v,
      (w.act (.apply j v)).events = (p v).events ∧
      (∀ fault, (w.act (.apply j v)).outcome = .error fault ↔ (p v).outcome = .error fault) ∧
      ∀ text, (p v).outcome = .ok text →
        ∃ chain, (w.act (.apply j v)).outcome = .ok (w.hold { h with path := h.path ++ [v], chain := chain })) ∧
    (steps {} as).2 = (applications {} as).flatMap (fun i => (i.1 i.2).events) ∧
    (∀ h ∈ w.held,
      (Recorded.supplyAll (h.format.run (n := 0) h.callback) h.path).outcome = .ok h.chain ∧
      h.path.length + h.chain.missing = h.format.placeholders.length ∧
      (h.chain.missing = 0 → ∃ text, h.format.erase.discharge .stepwise h.path = .ok (.text text) ∧
        h.chain = .finished (h.callback text))) ∧
    ∀ more, w.held <+: (w.steps more).1.held := by
  intro w
  have hempty : ({} : Workbench ε R).Sound := nofun
  have hsound : w.Sound := hempty.steps as
  refine ⟨fun u a ha => ?_, fun j h hj p hp v => ?_, hempty.log_steps as, fun h hh => ?_, w.held_steps⟩
  · rcases u.act_cases a with ⟨-, ts, hact⟩ | ⟨-, t, k, hact⟩ | ⟨j, v, h, rfl, -⟩
    · rw [hact]
      exact ⟨rfl, _, rfl⟩
    · rw [hact]
      exact ⟨rfl, _, rfl⟩
    · exact absurd rfl (ha j v)
  · obtain ⟨next, hsupply, -⟩ := (hsound h (List.mem_of_getElem? hj)).supply hp v
    rw [act_apply hj, hsupply, Recorded.events_map, Recorded.events_map, Recorded.outcome_map, Recorded.outcome_map]
    cases (p v).outcome with
    | error e => exact ⟨rfl, fun fault => by simp only [Except.map, Except.error.injEq], nofun⟩
    | ok text => exact ⟨rfl, fun fault => iff_of_false nofun nofun, fun _ _ => ⟨_, rfl⟩⟩
  · exact ⟨(hsound h hh).supplyAll, (hsound h hh).missing, (hsound h hh).finished⟩

/-- A renderer that records its name and the argument. -/
def logged (name : String) (render : Renderer) (v : Value) : Recorded (String × Value) String := ⟨render v, [(name, v)]⟩

/-- A key, an equals sign and a number that must not be negative. The chain after the key is used for three numbers. -/
def numbersOfKey : List (Action (String × Value) String) :=
  [.placeholder (logged "key" Combinator.string.render), .literal "=", .placeholder (logged "number" Renderer.nonNegative),
    .join 0 .sum 1, .join 3 .method 2, .run 4 id, .apply 0 (.string "a"),
    .apply 1 (.int (-1)), .apply 1 (.int 2), .apply 1 (.int 3)]

/-- The first number is refused. The key is rendered once all the same, and each number once. -/
theorem renders_once_number_refused :
    (steps {} numbersOfKey).2 = [("key", .string "a"), ("number", .int (-1)), ("number", .int 2), ("number", .int 3)] ∧
    ((steps {} numbersOfKey).1.held.map fun h => (h.path, h.chain.result?)) =
      [([], none), ([.string "a"], none), ([.string "a", .int 2], some "a=2"), ([.string "a", .int 3], some "a=3")] := by
  obtain ⟨-, -, hlog, -⟩ := renders_once numbersOfKey
  have hrenderings : (applications {} numbersOfKey).flatMap (fun i => (i.1 i.2).events) =
      [("key", .string "a"), ("number", .int (-1)), ("number", .int 2), ("number", .int 3)] := rfl
  exact ⟨hlog.trans hrenderings, rfl⟩

end Workbench

end TypedFormat

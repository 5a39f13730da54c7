import TypedFormat.Renderer
import TypedFormat.Proofs.Discharge.Conclusion
import TypedFormat.Proofs.Discharge.Walk
import TypedFormat.Proofs.Recorded

/-!
# The callback of a run

A format run with a callback takes the arguments of its placeholders as it does when it is discharged, with the same faults at
the same arguments. Where the discharge comes to a text, the run comes to the callback of that text, and arguments after it
go to what the callback gave.

A callback that is a plain function does not show how often it is called. The format is therefore run as a step
(`Format.acting`), with renderers in which nothing happens and a callback that records the text it gets. Literals, placeholders
and concatenation call their callbacks where they always do, so the events are the calls (`Format.events_acting`), and without
its record this is the run of the format (`Format.erase_recorded`).

`Format.run_natural` puts both together.
-/

namespace TypedFormat

variable {ε : Type} {n : Nat} {R : Type}

/-! ## Arguments for a format with steps -/

/-- The events when arguments carry a format so far: nothing as long as the format waits or after a fault, and after the whole
text what the callback and the arguments that are left over do. -/
def Reach.events (k : String → Recorded ε (Curried (Recorded ε) n R)) : Except Fault Reach → List ε
  | .ok (.complete text surplus) => (k text >>= fun chain => Recorded.supplyAll ⟨n, chain⟩ surplus).events
  | _ => []

/-- The events of supplying arguments to a format in whose renderers nothing happens are found by walking its leaves. -/
theorem Format.events_acting (t : Format (Except Fault)) (k : String → Recorded ε (Curried (Recorded ε) n R))
    (front : String) (args : List Value) :
    ((t.silent.acting n).run (fun tail => k (front ++ tail)) >>= fun chain =>
      Recorded.supplyAll ⟨t.silent.layers n, chain⟩ args).events = Reach.events k (walk t.leaves front args) := by
  induction t generalizing n front args with
  | literal text => rfl
  | placeholder render =>
    cases args with
    | nil => rfl
    | cons v vs =>
      have hsupply : (((placeholder render).silent.acting n).run (fun tail => k (front ++ tail)) >>= fun chain =>
            Recorded.supplyAll ⟨n + 1, chain⟩ (v :: vs)) =
          ((Spec.placeholder fun v => (Recorded.silent (render v) : Recorded ε String)).run
            (fun tail => k (front ++ tail)) v >>= id) >>= fun rest => Recorded.supplyAll ⟨n, rest⟩ vs :=
        bind_map_left _ _ _
      have hwalk : walk (placeholder render).leaves front (v :: vs) = render v >>= fun text => walk [] (front ++ text) vs :=
        rfl
      refine (congrArg Recorded.events hsupply).trans ?_
      rw [hwalk, layer_acting]
      cases render v <;> rfl
  | join left way right ihl ihr =>
    -- The left part is run with a callback that runs the right one, and the walk goes on there too.
    have hl := ihl (fun text => (right.silent.acting n).run fun tail => k (text ++ tail)) front args
    simp only [String.append_assoc] at hl
    simp only [silent, acting, layers, leaves, Spec.join_eq_cat, Spec.run_cat, walk_append]
    rw [hl]
    cases walk left.leaves front args with
    | error e => rfl
    | ok reach =>
      cases reach with
      | waiting => rfl
      | complete text surplus => exact ihr k text surplus

/-! ## A callback that records its texts -/

/-- A callback that records the text it gets. What it gives is as before, and nothing is recorded when that takes arguments. -/
def recording (k : String → Curried (Except Fault) n R) (text : String) : Recorded String (Curried (Recorded String) n R) :=
  ⟨.ok (Curried.silent n (k text)), [text]⟩

/-- After the whole text, the callback has been called once, with that text. -/
theorem Reach.events_recording (k : String → Curried (Except Fault) n R) (text : String) (surplus : List Value) :
    Reach.events (recording k) (.ok (.complete text surplus)) = [text] :=
  congrArg (text :: ·) (Recorded.events_supplyAll_silent n (k text) surplus)

namespace Format

/-- A format run with a callback and supplied with arguments, with the texts that the callback is called with. -/
def recorded (t : Format (Except Fault)) (k : String → Curried (Except Fault) n R) (args : List Value) :
    Recorded String (Callable (Recorded String) R) :=
  (t.silent.acting n).run (recording k) >>= fun chain => Recorded.supplyAll ⟨t.silent.layers n, chain⟩ args

variable (t : Format (Except Fault)) (k : String → Curried (Except Fault) n R)

/-- Recording the calls changes nothing in the run. -/
theorem erase_recorded (args : List Value) :
    (t.recorded k args).outcome.map Callable.erase = (t.run k).supplyAll args := by
  have hcall : ∀ text, (recording k text).outcome.map (fun chain => Callable.erase ⟨n, chain⟩) = .ok ⟨n, k text⟩ :=
    fun text => congrArg (fun chain => Except.ok (Callable.mk n chain)) (Curried.erase_silent n (k text))
  have hrun := t.silent.erase_acting hcall
  rw [erase_silent] at hrun
  obtain ⟨chain, hchain, herase⟩ := map_eq_ok_iff.1 hrun
  rw [recorded, Recorded.outcome_bind, hchain, ← herase]
  exact Recorded.erase_supplyAll _ args

/-- The calls of the callback are found by walking the leaves. -/
theorem events_recorded (args : List Value) :
    (t.recorded k args).events = Reach.events (recording k) (walk t.leaves "" args) := by
  have h := t.events_acting (recording k) "" args
  simp only [String.empty_append] at h
  exact h

/-- After the whole text, arguments go to what the callback gave. -/
theorem run_supplyAll_of_finished {text : String} {args : List Value} (h : t.sprintf.supplyAll args = .ok (.finished text))
    (more : List Value) : (t.run k).supplyAll (args ++ more) = Callable.supplyAll ⟨n, k text⟩ more := by
  rw [run_eq_conclude, Callable.supplyAll_append_of_ok (Callable.supplyAll_conclude_of_ok h k)]
  rfl

/-- A run waits for an argument of the format exactly when the discharge waits. -/
theorem waiting_iff (args : List Value) :
    (∃ c, t.sprintf.supplyAll args = .ok c ∧ 0 < c.missing) ↔
      ∃ d, (t.run k).supplyAll args = .ok d ∧ n < d.missing := by
  constructor
  · rintro ⟨c, hc, hpos⟩
    refine ⟨c.conclude k, ?_, Nat.lt_add_of_pos_right hpos⟩
    rw [run_eq_conclude]
    exact Callable.supplyAll_conclude_of_ok hc k
  · rintro ⟨d, hd, hlt⟩
    have hmissing := Callable.missing_of_supplyAll hd
    rw [run_eq_conclude] at hd hmissing
    have hlen : args.length ≤ t.sprintf.missing := by
      have htotal : (t.sprintf.conclude k).missing = n + t.sprintf.missing := rfl
      omega
    rw [Callable.supplyAll_conclude hlen] at hd
    obtain ⟨c, hc, rfl⟩ := map_eq_ok_iff.1 hd
    exact ⟨c, hc, Nat.lt_of_add_lt_add_left hlt⟩

/-- A callback is natural. Whatever it gives, be it a chain that takes arguments itself, the run of a format with it goes as the
discharge does. The run waits exactly when the discharge waits, is refused the same arguments with the same faults, and at the
argument where the discharge comes to a text it comes to the callback of that text; arguments after this go to what the
callback gave.

The run can be recorded: the callback is called once after the whole text, with that text, and not at all as long as the run
waits or when an argument was refused. -/
theorem run_natural :
    (∀ args, (t.recorded k args).outcome.map Callable.erase = (t.run k).supplyAll args) ∧
    (∀ args, (∃ c, t.sprintf.supplyAll args = .ok c ∧ 0 < c.missing) ↔
      ∃ d, (t.run k).supplyAll args = .ok d ∧ n < d.missing) ∧
    (∀ args c, t.sprintf.supplyAll args = .ok c → 0 < c.missing →
      (t.recorded k args).events = [] ∧
      ∃ d, (t.run k).supplyAll args = .ok d ∧ d.missing = n + c.missing ∧
        ∀ v fault, (c.supply v = .error fault ↔ d.supply v = .error fault) ∧
          (c.supply v = .error fault → ∀ later,
            t.sprintf.supplyAll (args ++ v :: later) = .error fault ∧
            (t.run k).supplyAll (args ++ v :: later) = .error fault ∧
            (t.recorded k (args ++ v :: later)).events = [])) ∧
    (∀ args text, t.sprintf.supplyAll args = .ok (.finished text) → ∀ more,
      (t.run k).supplyAll (args ++ more) = Callable.supplyAll ⟨n, k text⟩ more ∧
      (t.recorded k (args ++ more)).events = [text]) := by
  refine ⟨t.erase_recorded k, t.waiting_iff k, fun args c hc hpos => ?_, fun args text h more => ⟨?_, ?_⟩⟩
  · have hd : (t.run k).supplyAll args = .ok (c.conclude k) := by
      rw [run_eq_conclude]
      exact Callable.supplyAll_conclude_of_ok hc k
    refine ⟨?_, c.conclude k, hd, rfl, fun v fault => ⟨?_, fun hv later => ⟨?_, ?_, ?_⟩⟩⟩
    · rw [events_recorded, walk_of_missing hc hpos]
      rfl
    · rw [Callable.supply_conclude hpos]
      cases c.supply v with
      | error e => exact ⟨fun he => by cases he; rfl, fun he => by cases he; rfl⟩
      | ok rest => exact iff_of_false nofun nofun
    · exact Callable.supplyAll_of_refused hc hv later
    · refine Callable.supplyAll_of_refused hd ?_ later
      rw [Callable.supply_conclude hpos, hv]
      rfl
    · rw [events_recorded, walk_of_refused hc hpos hv later]
      rfl
  · exact t.run_supplyAll_of_finished k h more
  · rw [events_recorded, walk_append_of_complete (walk_of_finished h) more, Reach.events_recording]

/-- A number that must not be negative, a bar and a text; the callback takes a further text and puts it at the end. The number
alone leaves the run waiting, a negative one stops it as it stops the discharge, and what comes after both placeholders goes to
the callback's result. -/
theorem run_natural_callback_takes_text :
    let t : Format (Except Fault) :=
      .join (.join (.placeholder Renderer.nonNegative) .sum (.literal "|")) .method (.placeholder Combinator.string.render)
    let k : String → Curried (Except Fault) 1 String := fun text v => (fun s => text ++ s) <$> v.string?
    (∃ d, (t.run k).supplyAll [.int 7] = .ok d ∧ 1 < d.missing) ∧ (t.recorded k [.int 7]).events = [] ∧
    (t.run k).supplyAll [.int (-2), .string "a", .string "b"] = .error (.panic "negative: -2") ∧
    (t.recorded k [.int (-2), .string "a", .string "b"]).events = [] ∧
    (t.run k).supplyAll [.int 7, .string "a", .string "b"] = .ok (.finished "7|ab") ∧
    (t.recorded k [.int 7, .string "a", .string "b"]).events = ["7|a"] ∧
    (t.run k).supplyAll [.int 7, .string "a", .bool true] = .error .typeMismatch ∧
    (t.recorded k [.int 7, .string "a", .bool true]).events = ["7|a"] := by
  intro t k
  obtain ⟨-, hwait, hstop, hdone⟩ := t.run_natural k
  obtain ⟨hnone, -⟩ := hstop [.int 7] _ rfl (by decide)
  obtain ⟨-, d, -, -, hrefused⟩ := hstop [] t.sprintf rfl (by decide)
  have hnegative := (hrefused (.int (-2)) (.panic "negative: -2")).2 rfl [.string "a", .string "b"]
  have htext := hdone [.int 7, .string "a"] "7|a" rfl
  exact ⟨(hwait [.int 7]).1 ⟨_, rfl, by decide⟩, hnone, hnegative.2.1, hnegative.2.2, (htext [.string "b"]).1.trans rfl,
    (htext [.string "b"]).2, (htext [.bool true]).1.trans rfl, (htext [.bool true]).2⟩

end Format

end TypedFormat

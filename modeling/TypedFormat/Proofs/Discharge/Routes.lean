import TypedFormat.Proofs.Discharge.Walk
import TypedFormat.Renderer

/-!
# Routes agree

Arguments reach a chain one by one, or all at once through a member of a family. The body of every member, of whatever family
and arity, supplies the arguments that it names one by one in their order (`Family.eval_body`), so all routes come to the same.
A member must end in a finished text; that is the only thing it adds (`Format.discharge_member`).

`Route.all_agree` says so for chains of any functions and for formats.
-/

namespace TypedFormat

open TypedFormat.Arity

/-! ## Bodies of members -/

/-- One argument more is one call more, at the end. -/
theorem Arity.Member.applied_numbers_succ (n : Nat) :
    applied (numbers (n + 1)) = .apply (applied (numbers n)) (n + 1) := by
  rw [applied, numbers, List.range'_1_concat, List.foldl_append, Nat.add_comm 1 n]
  rfl

/-- The body that applies the callee to the first `n` arguments supplies these, from left to right. -/
theorem Arity.Call.eval_applied {R : Type} (callee : Chain R) (args : List Value) {n : Nat} (hn : n ≤ args.length) :
    (Member.applied (Member.numbers n)).eval callee args = callee.supplyAll (args.take n) := by
  induction n with
  | zero => rfl
  | succ n ih =>
    have hlt : n < args.length := hn
    have htake : args.take (n + 1) = args.take n ++ [args[n]] := by
      rw [List.take_add_one, List.getElem?_eq_getElem hlt]
      rfl
    rw [Member.applied_numbers_succ, Call.eval, ih (Nat.le_of_lt hlt), htake, Callable.supplyAll_append, Nat.add_sub_cancel,
      List.getElem?_eq_getElem hlt]
    simp only [Callable.supplyAll_singleton]

/-- Members of all families have the same body: their callee applied to all arguments. -/
theorem Arity.Family.member_body (f : Family) (n : Nat) : (f.member n).body = Member.applied (Member.numbers n) := by
  cases f with
  | sprintf => rfl
  | uncurry => rfl
  | tuple =>
    by_cases hn : n = 0
    · subst hn
      rfl
    · simp only [Family.member, Member.tuple, if_neg hn]

/-- The body of a member at work supplies the arguments one by one. -/
theorem Arity.Family.eval_body {R : Type} (f : Family) (callee : Chain R) (args : List Value) :
    (f.member args.length).body.eval callee args = callee.supplyAll args := by
  rw [Family.member_body, Call.eval_applied callee args (Nat.le_refl _), List.take_length]

/-- Where a family has a member for the arguments, the member supplies them one by one. -/
theorem Route.apply_member {R : Type} {f : Family} {args : List Value} (h : args.length ∈ f.arities greatest)
    (callee : Chain R) : (Route.member f).apply callee args = (callee.supplyAll args).mapError .fault := by
  rw [Route.apply, if_pos h, Family.eval_body]

/-! ## Discharging a format through a member -/

/-- The answer of a member, given that of the arguments supplied one by one: arguments must not be left open. -/
def Result.complete : Result → Except Problem Result
  | .callable => .error (.fault .tooFewArguments)
  | r => .ok r

/-- A member answers like the arguments supplied one by one, but no arguments may be left open. -/
theorem Format.discharge_member (t : Format (Except Fault)) {f : Family} {args : List Value}
    (h : args.length ∈ f.arities Route.greatest) :
    t.discharge (.member f) args = t.discharge .stepwise args >>= Result.complete := by
  rw [discharge, discharge, Route.apply_member h, Route.apply]
  cases t.sprintf.supplyAll args with
  | error e => rfl
  | ok c =>
    obtain ⟨missing, chain⟩ := c
    cases missing <;> rfl

/-- Supplied one by one, arguments are too few for no format whose placeholders do not say so themselves. -/
theorem Format.discharge_stepwise_ne_tooFew {t : Format (Except Fault)}
    (h : ∀ p ∈ t.placeholders, ∀ v, p v ≠ .error .tooFewArguments) (args : List Value) :
    t.discharge .stepwise args ≠ .error (.fault .tooFewArguments) := by
  rw [discharge_stepwise_eq_walk]
  cases hw : walk t.leaves "" args with
  | error e =>
    intro he
    cases he
    obtain ⟨p, hp, v, hv⟩ := walk_eq_error hw
    exact h p hp v hv
  | ok reach =>
    intro he
    cases reach with
    | waiting => cases he
    | complete text surplus => cases surplus <;> cases he

/-! ## All routes -/

/-- All routes agree. For a chain of any functions, the body of a member of whatever arity supplies the arguments one by one, and
so does every member that there is: the first argument that is refused ends it, whatever comes after, and if none is, what is
left of the chain takes what it would have taken. No arguments leave a chain as it is.

For a format, the arguments one by one go to the chain that the specification is discharged with. A member gives the same
text and the same fault; where arguments one by one leave a callable it reports too few of them, and in no other case, unless a
placeholder itself reports that. -/
theorem Route.all_agree :
    (∀ {R : Type} (callee : Chain R) (args : List Value) (f : Family),
      (f.member args.length).body.eval callee args = callee.supplyAll args ∧
      (args.length ∈ f.arities greatest →
        (member f).apply callee args = (callee.supplyAll args).mapError .fault ∧
        (∀ before v later c fault, args = before ++ v :: later → callee.supplyAll before = .ok c →
          c.supply v = .error fault → (member f).apply callee args = .error (.fault fault)) ∧
        (∀ c, callee.supplyAll args = .ok c → (member f).apply callee args = .ok c ∧
          c.missing = callee.missing - args.length ∧ ∀ more, c.supplyAll more = callee.supplyAll (args ++ more)))) ∧
    (∀ {R : Type} (callee : Chain R), (member .tuple).apply callee [] = .ok callee) ∧
    (∀ (t : Format (Except Fault)) (args : List Value),
      t.discharge .stepwise args =
        ((Callable.supplyAll ⟨t.layers 0, (t.spec 0).sprintf⟩ args).mapError .fault).map textResult ∧
      ∀ f : Family, args.length ∈ f.arities greatest →
        (∀ text, t.discharge (.member f) args = .ok (.text text) ↔ t.discharge .stepwise args = .ok (.text text)) ∧
        (∀ p, t.discharge .stepwise args = .error p → t.discharge (.member f) args = .error p) ∧
        (t.discharge .stepwise args = .ok .callable → t.discharge (.member f) args = .error (.fault .tooFewArguments)) ∧
        ((∀ p ∈ t.placeholders, ∀ v, p v ≠ .error .tooFewArguments) →
          (t.discharge (.member f) args = .error (.fault .tooFewArguments) ↔
            t.discharge .stepwise args = .ok .callable))) := by
  refine ⟨fun callee args f => ⟨Family.eval_body f callee args, fun hf => ?_⟩, fun callee => ?_,
    fun t args => ⟨rfl, fun f hf => ?_⟩⟩
  · have happly := apply_member hf callee
    refine ⟨happly, ?_, fun c hc => ⟨by rw [happly, hc]; rfl, ?_, fun more => ?_⟩⟩
    · rintro before v later c fault rfl hc hv
      rw [happly, Callable.supplyAll_of_refused hc hv]
      rfl
    · have hmissing := Callable.missing_of_supplyAll hc
      omega
    · exact (Callable.supplyAll_append_of_ok hc more).symm
  · rw [apply_member (by decide)]
    rfl
  · rw [t.discharge_member hf]
    cases hd : t.discharge .stepwise args with
    | error p =>
      refine ⟨fun text => iff_of_false nofun nofun, fun q hq => hq, nofun, fun hp => iff_of_false (fun he => ?_) nofun⟩
      exact t.discharge_stepwise_ne_tooFew hp args (hd.trans he)
    | ok r =>
      cases r with
      | callable => exact ⟨fun text => iff_of_false nofun nofun, nofun, fun _ => rfl, fun _ => iff_of_true rfl rfl⟩
      | text s => exact ⟨fun text => Iff.rfl, nofun, nofun, fun _ => iff_of_false nofun nofun⟩
      | number n => exact ⟨fun text => Iff.rfl, nofun, nofun, fun _ => iff_of_false nofun nofun⟩

/-- Two texts supplied to a chain of three layers leave the third; a number in place of the second text is refused. The format
has placeholders for a number and a text: the number alone is too few arguments for a member. -/
theorem Route.all_agree_three_layers :
    let t : Format (Except Fault) := .join (.placeholder Combinator.int.render) .sum (.placeholder Combinator.string.render)
    (∃ c, (member .uncurry).apply (joiner 3) [.string "a", .string "b"] = .ok c ∧ c.missing = 1 ∧
      c.supplyAll [.string "c"] = .ok (.finished "a|b|c")) ∧
    (member .tuple).apply (joiner 3) [.string "a", .int 1, .string "c"] = .error (.fault .typeMismatch) ∧
    t.discharge (.member .sprintf) [.int 7] = .error (.fault .tooFewArguments) ∧
    t.discharge .stepwise [.int 7] = .ok .callable ∧
    t.discharge (.member .tuple) [.int 7, .string "s"] = .ok (.text "7s") := by
  intro t
  obtain ⟨hchain, -, hformat⟩ := Route.all_agree
  have htwo := (hchain (joiner 3) [.string "a", .string "b"] .uncurry).2 (by decide)
  have hthree := (hchain (joiner 3) [.string "a", .int 1, .string "c"] .tuple).2 (by decide)
  have hfew := (hformat t [.int 7]).2 .sprintf (by decide)
  have hall := (hformat t [.int 7, .string "s"]).2 .tuple (by decide)
  have hplain : ∀ p ∈ t.placeholders, ∀ v, p v ≠ .error .tooFewArguments := by
    intro p hp v
    rcases List.mem_cons.1 hp with rfl | hp
    · cases v <;> nofun
    · cases List.mem_singleton.1 hp
      cases v <;> nofun
  obtain ⟨happly, hmissing, hrest⟩ := htwo.2.2 ⟨1, joining 1 ["a", "b"]⟩ rfl
  refine ⟨⟨_, happly, hmissing, ?_⟩, hthree.2.1 [.string "a"] (.int 1) [.string "c"] _ _ rfl rfl rfl, hfew.2.2.1 rfl,
    (hfew.2.2.2 hplain).1 (hfew.2.2.1 rfl), (hall.1 "7s").2 rfl⟩
  rw [hrest]
  rfl

end TypedFormat

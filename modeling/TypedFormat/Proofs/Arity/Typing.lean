import TypedFormat.Proofs.Arity.Scope
import TypedFormat.Proofs.Discharge.Routes

/-!
# Members are well scoped and well typed

The bounds of a member form one chain from the callee to the result, with one link for each argument, and the type of a
specification's chain takes the same inputs in the same order. So the body has a type after every call, and only one: the type
that the next link starts from (`Family.hasType_applied`).

`Family.member_wellFormed` puts this together with the code of a member, for every family and every number of arguments.
-/

namespace TypedFormat.Arity

/-! ## Types of bodies -/

/-- The call has the type in the member: the callee has its declared type, what has a bounded type can be applied to an argument
of the input of the bound, and a stored function to an argument of its input. -/
inductive Call.HasType (m : Member) : Call → TypeTerm → Prop where
  | callee : HasType m .callee m.calleeType
  | bounded {f : Call} {i : Nat} {b : Bound} (hf : HasType m f (.var b.callee)) (hb : b ∈ m.bounds)
      (hi : (i, b.input) ∈ m.arguments) : HasType m (.apply f i) (.var b.output)
  | stored {f : Call} {i : Nat} {input : TypeVar} {rest : TypeTerm} (hf : HasType m f (.curried input rest))
      (hi : (i, input) ∈ m.arguments) : HasType m (.apply f i) rest

/-- The callee has no other type than the declared one. -/
theorem Call.hasType_callee {m : Member} {t : TypeTerm} : HasType m .callee t ↔ t = m.calleeType := by
  constructor
  · rintro ⟨⟩
    rfl
  · rintro rfl
    exact .callee

/-- An application has a type by one of the two rules. -/
theorem Call.hasType_apply {m : Member} {f : Call} {i : Nat} {t : TypeTerm} :
    HasType m (.apply f i) t ↔
      (∃ b ∈ m.bounds, HasType m f (.var b.callee) ∧ (i, b.input) ∈ m.arguments ∧ t = .var b.output) ∨
      ∃ input, HasType m f (.curried input t) ∧ (i, input) ∈ m.arguments := by
  constructor
  · intro h
    cases h with
    | bounded hf hb hi => exact .inl ⟨_, hb, hf, hi, rfl⟩
    | stored hf hi => exact .inr ⟨_, hf, hi⟩
  · rintro (⟨b, hb, hf, hi, rfl⟩ | ⟨input, hf, hi⟩)
    · exact .bounded hf hb hi
    · exact .stored hf hi

open Member

/-- The applied body names the arguments in their order. -/
theorem Call.arguments_applied (args : List Nat) : (applied args).arguments = args := by
  have hfold (c : Call) : (args.foldl .apply c).arguments = c.arguments ++ args := by
    induction args generalizing c with
    | nil => exact (List.append_nil _).symm
    | cons i rest ih => rw [List.foldl_cons, ih, arguments, List.append_assoc, List.singleton_append]
  exact hfold .callee

namespace Family

variable {f : Family} {n : Nat}

/-! ## Members in general -/

/-- The arguments are numbered in order, each with the input of its number. -/
theorem member_arguments (hn : 1 ≤ n) : (f.member n).arguments = (numbers n).map fun i => (i, .input i) := by
  cases f with
  | sprintf => exact zip_inputs n
  | uncurry => exact zip_inputs n
  | tuple => exact (congrArg Member.arguments (tuple_eq_uncurry hn)).trans (zip_inputs n)

theorem argumentNumbers_member (hn : 1 ≤ n) : (f.member n).argumentNumbers = numbers n := by
  rw [argumentNumbers, member_arguments hn, List.map_map]
  exact List.map_id _

theorem member_bounds (hf : f ≠ .sprintf) (hn : 1 ≤ n) : (f.member n).bounds = (numbers n).map (link n) := by
  rw [member_eq_uncurry hf hn]
  exact chainBounds_inputs n

theorem mem_arguments (hn : 1 ≤ n) {i : Nat} {v : TypeVar} :
    (i, v) ∈ (f.member n).arguments ↔ (1 ≤ i ∧ i ≤ n) ∧ v = .input i := by
  rw [member_arguments hn, List.mem_map]
  constructor
  · rintro ⟨j, hj, he⟩
    cases he
    exact ⟨mem_numbers.1 hj, rfl⟩
  · rintro ⟨hi, rfl⟩
    exact ⟨i, mem_numbers.2 hi, rfl⟩

/-! ## The types of a body after each call -/

/-- The type of the callee after `i` calls. -/
def typeAfter (f : Family) (n i : Nat) : TypeTerm :=
  match f with
  | .sprintf => chain ((inputs n).drop i)
  | .uncurry | .tuple => .var (stage n i)

theorem typeAfter_of_ne (hf : f ≠ .sprintf) (i : Nat) : f.typeAfter n i = .var (stage n i) := by
  cases f with
  | sprintf => exact absurd rfl hf
  | uncurry => rfl
  | tuple => rfl

/-- The chain of a specification takes the next input. -/
theorem typeAfter_sprintf {i : Nat} (hi : i < n) :
    sprintf.typeAfter n i = .curried (.input (i + 1)) (sprintf.typeAfter n (i + 1)) := by
  have hlen : i < (inputs n).length := by simpa [inputs, numbers] using hi
  have hinput : (inputs n)[i] = .input (i + 1) := by
    simp only [inputs, numbers, List.getElem_map, List.getElem_range', Nat.one_mul, Nat.add_comm]
  rw [typeAfter, typeAfter, List.drop_eq_getElem_cons hlen, hinput, chain]

/-- Before the first call it is the declared type of the callee. -/
theorem typeAfter_zero (hn : 1 ≤ n) : f.typeAfter n 0 = (f.member n).calleeType := by
  by_cases hf : f = .sprintf
  · subst hf
    exact (calleeType_sprintf n).symm
  · rw [typeAfter_of_ne hf, member_eq_uncurry hf hn]
    rfl

/-- After the last it is the declared result. -/
theorem typeAfter_self (hn : 1 ≤ n) : f.typeAfter n n = (f.member n).result := by
  by_cases hf : f = .sprintf
  · subst hf
    have hdrop : (inputs n).drop n = [] := List.drop_eq_nil_of_le (by simp [inputs, numbers])
    rw [typeAfter, hdrop]
    rfl
  · have hstage : stage n n = .result := by
      rw [stage, if_neg (by omega), if_neg (Nat.lt_irrefl n)]
    rw [typeAfter_of_ne hf, member_eq_uncurry hf hn, hstage]
    rfl

/-- One call: what has no type but the one after `i` calls has, applied to the next argument, no type but the next. For a chain
that is the output of the one link that starts there, for a specification what the stored function gives. -/
theorem hasType_next (hn : 1 ≤ n) {i : Nat} (hi : i < n) {c : Call}
    (hc : ∀ t, c.HasType (f.member n) t ↔ t = f.typeAfter n i) (t : TypeTerm) :
    (Call.apply c (i + 1)).HasType (f.member n) t ↔ t = f.typeAfter n (i + 1) := by
  simp only [Call.hasType_apply, hc]
  by_cases hf : f = .sprintf
  · subst hf
    have hbounds : (sprintf.member n).bounds = [] := rfl
    simp only [hbounds, typeAfter_sprintf hi, TypeTerm.curried.injEq, List.not_mem_nil, false_and, exists_false, false_or]
    constructor
    · rintro ⟨input, ⟨rfl, rfl⟩, -⟩
      rfl
    · rintro rfl
      exact ⟨_, ⟨rfl, rfl⟩, (mem_arguments hn).2 ⟨⟨by omega, hi⟩, rfl⟩⟩
  · simp only [typeAfter_of_ne hf, member_bounds hf hn, TypeTerm.var.injEq, reduceCtorEq, false_and, exists_false, or_false]
    constructor
    · rintro ⟨b, hb, hcallee, -, rfl⟩
      rw [(mem_links hi hb).1 hcallee, link]
    · rintro rfl
      have hlink : link n (i + 1) ∈ (numbers n).map (link n) :=
        List.mem_map_of_mem (mem_numbers.2 ⟨Nat.succ_pos i, hi⟩)
      exact ⟨_, hlink, rfl, (mem_arguments hn).2 ⟨⟨by omega, hi⟩, rfl⟩, rfl⟩

/-- The callee applied to the first `i` arguments has the type after `i` calls, and no other. -/
theorem hasType_applied (hn : 1 ≤ n) {i : Nat} (hi : i ≤ n) (t : TypeTerm) :
    (applied (numbers i)).HasType (f.member n) t ↔ t = f.typeAfter n i := by
  induction i generalizing t with
  | zero =>
    rw [typeAfter_zero hn]
    exact Call.hasType_callee
  | succ i ih =>
    rw [applied_numbers_succ]
    exact hasType_next hn hi (ih (Nat.le_of_lt hi)) t

/-! ## Scoping of members -/

theorem inputs_nodup (n : Nat) : (inputs n).Nodup :=
  List.Nodup.map (fun _ _ h => TypeVar.input.inj h) List.nodup_range'

theorem middles_nodup (n : Nat) : (middles n).Nodup :=
  List.Nodup.map (fun _ _ h => TypeVar.middle.inj h) List.nodup_range'

/-- The callee, the inputs, the intermediate results and the result are different variables. -/
theorem typeParams_uncurry_nodup (n : Nat) : (Member.uncurry n).typeParams.Nodup := by
  have hinputs : (.callee :: inputs n).Nodup := List.nodup_cons.2 ⟨by simp [inputs], inputs_nodup n⟩
  have hmiddles : (.callee :: inputs n ++ middles n).Nodup :=
    List.nodup_append.2 ⟨hinputs, middles_nodup n, by simp [inputs, middles]⟩
  have hresult : ∀ v ∈ .callee :: inputs n ++ middles n, v ≠ .result := by
    rintro v hv rfl
    simp [inputs, middles] at hv
  exact List.nodup_append.2 ⟨hmiddles, List.nodup_singleton _, fun v hv w hw => List.mem_singleton.1 hw ▸ hresult v hv⟩

theorem typeParams_nodup (hn : 1 ≤ n) : (f.member n).typeParams.Nodup := by
  by_cases hf : f = .sprintf
  · subst hf
    exact inputs_nodup n
  · rw [member_eq_uncurry hf hn]
    exact typeParams_uncurry_nodup n

/-- The inputs are declared. -/
theorem input_mem_typeParams (hn : 1 ≤ n) {i : Nat} (hi : 1 ≤ i ∧ i ≤ n) : .input i ∈ (f.member n).typeParams := by
  have hinput : .input i ∈ inputs n := List.mem_map_of_mem (mem_numbers.2 hi)
  by_cases hf : f = .sprintf
  · subst hf
    exact hinput
  · rw [member_eq_uncurry hf hn]
    simp only [Member.uncurry, List.mem_append, List.mem_cons, hinput, or_true, true_or]

/-- So are all types of a chain. -/
theorem stage_mem_typeParams (hf : f ≠ .sprintf) (hn : 1 ≤ n) (i : Nat) : stage n i ∈ (f.member n).typeParams := by
  rw [member_eq_uncurry hf hn, stage]
  by_cases hzero : i = 0
  · simp [Member.uncurry, hzero]
  · by_cases hlt : i < n
    · have hmiddle : .middle i ∈ middles n := List.mem_map_of_mem (mem_numbers.2 (by omega))
      simp [Member.uncurry, hzero, hlt, hmiddle]
    · simp [Member.uncurry, hzero, hlt]

/-- A type after some calls mentions declared variables. -/
theorem vars_typeAfter (hn : 1 ≤ n) (i : Nat) : ∀ v ∈ (f.typeAfter n i).vars, v ∈ (f.member n).typeParams := by
  by_cases hf : f = .sprintf
  · subst hf
    have hchain (vs : List TypeVar) : (chain vs).vars = vs := by
      induction vs with
      | nil => rfl
      | cons v vs ih => rw [chain, TypeTerm.vars, ih]
    rw [typeAfter, hchain]
    exact fun v hv => List.mem_of_mem_drop hv
  · rw [typeAfter_of_ne hf]
    intro v hv
    rw [List.mem_singleton.1 hv]
    exact stage_mem_typeParams hf hn i

/-- All parts of a member mention what the member declares. -/
theorem closed_member (hn : 1 ≤ n) : (f.member n).Closed where
  argument := by
    rintro ⟨i, v⟩ hp
    obtain ⟨hi, rfl⟩ := (mem_arguments hn).1 hp
    exact input_mem_typeParams hn hi
  bound := by
    intro b hb
    by_cases hf : f = .sprintf
    · subst hf
      cases hb
    · rw [member_bounds hf hn] at hb
      obtain ⟨i, hi, rfl⟩ := List.mem_map.1 hb
      exact ⟨stage_mem_typeParams hf hn _, input_mem_typeParams hn (mem_numbers.1 hi), stage_mem_typeParams hf hn _⟩
  calleeType := typeAfter_zero (f := f) hn ▸ vars_typeAfter hn 0
  callee := by
    intro hf
    have hne : f ≠ .sprintf := by
      rintro rfl
      exact hf rfl
    exact stage_mem_typeParams hne hn 0
  result := typeAfter_self (f := f) hn ▸ vars_typeAfter hn n
  body := by
    rw [member_body, Call.arguments_applied, argumentNumbers_member hn]
    exact fun i hi => hi

/-- The code of a member is well scoped: different variables stay different when they are written out, and what is applied is none
of the arguments. -/
theorem scoped_member (hn : 1 ≤ n) : f.Scoped n (f.member n).words := by
  have hadmits := (closed_member (f := f) hn).admits_words
  have htypes : (f.member n).typeParams.map TypeVar.name = f.typeNames n := typeParams_names f n
  have hvalues : (f.member n).argumentNumbers.map argumentName = argumentNames n := by
    rw [argumentNumbers_member hn]
    rfl
  have hnodup : (f.member n).argumentNumbers.Nodup := by
    rw [argumentNumbers_member hn]
    exact List.nodup_range'
  refine ⟨?_, ?_, ?_, fun v hv => ?_, ?_, fun i hi => ?_⟩
  · refine ⟨f.headWords n, f.middleWords n ++ f.parameterWords n ++ f.tailWords n, f.not_mem_headWords n, ?_⟩
    simp only [words_member, declaration, List.append_assoc]
  · exact ⟨f.headWords n ++ f.genericWords n ++ f.middleWords n, f.tailWords n, words_member f n⟩
  · exact htypes ▸ (typeParams_nodup hn).map TypeVar.name_injective
  · exact htypes ▸ List.mem_map_of_mem ((hadmits _ hv).typeVar v rfl)
  · refine List.nodup_cons.2 ⟨fun hmem => ?_, hvalues ▸ hnodup.map argumentName_injective⟩
    obtain ⟨i, -, hi⟩ := List.mem_map.1 hmem
    exact f.plain_calleeName.2 i hi.symm
  · exact hvalues ▸ List.mem_map_of_mem ((hadmits _ hi).argument i rfl)

theorem member_whereClause (hf : f ≠ .sprintf) (hn : 1 ≤ n) : (f.member n).whereClause = clauseWords n :=
  whereClause_of_bounds (by rw [member_eq_uncurry hf hn]; rfl)

/-! ## The whole declaration -/

/-- A member that takes arguments is well scoped and well typed, and it applies its callee in order.

Its code declares each name once and uses declared ones only. Unless it discharges a specification, its bounds are the links of
one chain: the call `i` takes what the call before gave, which is the callee for the first, and an input of its number, and it
gives the intermediate result of its number, or the result if it is the last. The clause with the bounds is the same for a
function and for a tuple. A specification leaves a stored function that takes the inputs in order and ends in a text.

The body is the callee with one call for each argument in order. After each call it has one type: for a chain, exactly one bound
starts from it, and for a specification, it is a stored function; either takes the input of the next argument. The last call gives
the declared result. -/
theorem member_wellFormed (f : Family) {n : Nat} (hn : 1 ≤ n) :
    (f.member n).words = f.declaration n ∧
    f.Scoped n (f.member n).words ∧
    (f ≠ .sprintf → (f.member n).bounds = (numbers n).map (link n) ∧ (f.member n).whereClause = clauseWords n) ∧
    (uncurry.member n).whereClause = (tuple.member n).whereClause ∧
    (sprintf.member n).calleeType = chain (inputs n) ∧
    (sprintf.member n).calleeType.words = chainWords (List.range' 1 n) ∧
    (f.member n).declared = ((List.range' 1 n).map fun i => [s!"a{i}", ":", s!"T{i}"]) ∧
    (∀ callee, (f.member n).body.words callee = callee ++ (argumentNames n).flatMap fun name => ["(", name, ")"]) ∧
    (∀ i < n,
      (∀ t, (applied (numbers i)).HasType (f.member n) t ↔ t = f.typeAfter n i) ∧
      (f ≠ .sprintf → ∀ b ∈ (f.member n).bounds, .var b.callee = f.typeAfter n i ↔ b = link n (i + 1)) ∧
      (f = .sprintf → f.typeAfter n i = .curried (.input (i + 1)) (f.typeAfter n (i + 1))) ∧
      ∀ v, (i + 1, v) ∈ (f.member n).arguments ↔ v = .input (i + 1)) ∧
    (∀ t, (f.member n).body.HasType (f.member n) t ↔ t = (f.member n).result) ∧
    (f.member n).result = if f = .sprintf then .text else .var .result := by
  refine ⟨words_member f n, scoped_member hn, fun hf => ⟨member_bounds hf hn, member_whereClause hf hn⟩, ?_,
    calleeType_sprintf n, ?_, ?_, fun callee => ?_,
    fun i hi => ⟨hasType_applied hn (Nat.le_of_lt hi), fun hf b hb => ?_, ?_, fun v => ?_⟩, ?_, ?_⟩
  · rw [member_whereClause (f := uncurry) nofun hn, member_whereClause (f := tuple) nofun hn]
  · rw [member, calleeType_sprintf]
    exact words_chain _
  · exact declared_of_arguments (by rw [member_arguments hn, zip_inputs])
  · rw [member_body, words_applied_numbers]
  · rw [member_bounds hf hn] at hb
    rw [typeAfter_of_ne hf, TypeTerm.var.injEq]
    exact mem_links hi hb
  · rintro rfl
    exact typeAfter_sprintf hi
  · rw [mem_arguments hn]
    exact and_iff_right ⟨by omega, hi⟩
  · rw [member_body, ← typeAfter_self hn]
    exact hasType_applied hn (Nat.le_refl n)
  · by_cases hf : f = .sprintf
    · subst hf
      rfl
    · rw [member_eq_uncurry hf hn, if_neg hf]
      rfl

/-- Three arguments: the code of a function, the bounds of a function and of a tuple, and the chain of a specification. -/
theorem member_wellFormed_three :
    " ".intercalate ((uncurry.member 3).words.drop 6) =
      "pub fn uncurry3 < F , T1 , T2 , T3 , R1 , R2 , R > ( f : F , a1 : T1 , a2 : T2 , a3 : T3 ) -> R where " ++
        "F : :: core :: ops :: FnOnce ( T1 ) -> R1 , R1 : :: core :: ops :: FnOnce ( T2 ) -> R2 , " ++
        "R2 : :: core :: ops :: FnOnce ( T3 ) -> R \x7b f ( a1 ) ( a2 ) ( a3 ) \x7d" ∧
    uncurry.Scoped 3 (uncurry.member 3).words ∧ tuple.Scoped 3 (tuple.member 3).words ∧
    sprintf.Scoped 3 (sprintf.member 3).words ∧
    (uncurry.member 3).bounds =
      [⟨.callee, .input 1, .middle 1⟩, ⟨.middle 1, .input 2, .middle 2⟩, ⟨.middle 2, .input 3, .result⟩] ∧
    (uncurry.member 3).whereClause = (tuple.member 3).whereClause ∧
    (sprintf.member 3).calleeType = .curried (.input 1) (.curried (.input 2) (.curried (.input 3) .text)) ∧
    (tuple.member 3).body.HasType (tuple.member 3) (.var .result) ∧
    (sprintf.member 3).body.HasType (sprintf.member 3) .text := by
  obtain ⟨hwords, huncurry, hbounds, hwhere, hchain, -⟩ := member_wellFormed uncurry (n := 3) (by decide)
  obtain ⟨-, htuple, -, -, -, -, -, -, -, htupleType, -⟩ := member_wellFormed tuple (n := 3) (by decide)
  obtain ⟨-, hsprintf, -, -, -, -, -, -, -, hsprintfType, -⟩ := member_wellFormed sprintf (n := 3) (by decide)
  refine ⟨?_, huncurry, htuple, hsprintf, (hbounds nofun).1, hwhere, hchain, (htupleType _).2 rfl, (hsprintfType _).2 rfl⟩
  rw [hwords]
  decide +kernel

end Family

end TypedFormat.Arity

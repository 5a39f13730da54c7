import TypedFormat.Arity.Code

/-!
# The written declarations

The parts of a member are made separately, by loops of their own. Here they are brought into closed form: the bounds are the links
of one chain from the callee to the result (`Member.chainBounds_inputs`), the type of a specification's chain takes the inputs in
order (`Member.calleeType_sprintf`), and the body is the callee with one call after the other (`Call.words_applied`).

With these the code of a member is known word by word (`Family.words_member`): `Family.declaration` writes it from the number of
arguments alone.
-/

namespace TypedFormat.Arity

namespace Member

/-! ## The chain of bounds -/

theorem mem_numbers {n i : Nat} : i ∈ numbers n ↔ 1 ≤ i ∧ i ≤ n := by
  rw [numbers, List.mem_range'_1]
  omega

/-- The type of a chain of `n` functions after `i` calls. -/
def stage (n i : Nat) : TypeVar := if i = 0 then .callee else if i < n then .middle i else .result

/-- The bound of the call that takes the argument `i`. -/
def link (n i : Nat) : Bound := ⟨stage n (i - 1), .input i, stage n i⟩

/-- The type is a different one after each call. -/
theorem stage_inj {n i j : Nat} (hi : i ≤ n) (hj : j ≤ n) (h : stage n i = stage n j) : i = j := by
  unfold stage at h
  grind

/-- The intermediate result of an index is the type after the call of that index; the last index has none. -/
theorem middles_getD (n i : Nat) : (middles n)[i]?.getD .result = stage n (i + 1) := by
  rw [stage, if_neg (Nat.succ_ne_zero i), middles, numbers, List.getElem?_map]
  by_cases hi : i + 1 < n
  · rw [List.getElem?_range' (by omega), if_pos hi, Nat.one_mul, Nat.add_comm 1 i]
    rfl
  · rw [List.getElem?_eq_none (by rw [List.length_range']; omega), if_neg hi]
    rfl

/-- From the call `i + 1` on, the bounds are the links of the calls that are left. -/
theorem chainBounds_range' (n k i : Nat) :
    chainBounds (middles n) (stage n i) i ((List.range' (i + 1) k).map .input) = (List.range' (i + 1) k).map (link n) := by
  induction k generalizing i with
  | zero => rfl
  | succ k ih =>
    simp only [List.range'_succ, List.map_cons, chainBounds, middles_getD]
    exact congrArg _ (ih (i + 1))

/-- The bounds are the links of all calls in their order. -/
theorem chainBounds_inputs (n : Nat) : chainBounds (middles n) .callee 0 (inputs n) = (numbers n).map (link n) :=
  chainBounds_range' n n 0

/-- A type of the chain has one link that starts from it: that of the next call. -/
theorem mem_links {n i : Nat} (hi : i < n) {b : Bound} (hb : b ∈ (numbers n).map (link n)) :
    b.callee = stage n i ↔ b = link n (i + 1) := by
  obtain ⟨j, hj, rfl⟩ := List.mem_map.1 hb
  obtain ⟨hpos, hle⟩ := mem_numbers.1 hj
  constructor
  · intro h
    have heq : j - 1 = i := stage_inj (by omega) (by omega) h
    rw [← heq, Nat.sub_add_cancel hpos]
  · intro h
    rw [h]
    rfl

/-! ## The chain of a specification -/

/-- The type of a stored chain of functions that takes the inputs in order and ends in a text. -/
def chain : List TypeVar → TypeTerm
  | [] => .text
  | input :: rest => .curried input (chain rest)

/-- The type of a specification's chain takes the inputs of the member in their order. -/
theorem calleeType_sprintf (n : Nat) : (sprintf n).calleeType = chain (inputs n) := by
  have hfold (vs : List TypeVar) : vs.foldr (fun input rest => .curried input rest) .text = chain vs := by
    induction vs with
    | nil => rfl
    | cons v vs ih => rw [List.foldr_cons, ih, chain]
  rw [sprintf, List.foldl_reverse]
  exact hfold _

/-! ## Arguments and bodies -/

/-- Every argument has the input of its number. -/
theorem zip_inputs (n : Nat) : (numbers n).zip (inputs n) = (numbers n).map fun i => (i, .input i) := by
  rw [inputs, List.zip_eq_zipWith, List.zipWith_map_right, List.zipWith_self]

/-- The tuple's member is declared like that of a plain function. -/
theorem tuple_eq_uncurry {n : Nat} (hn : 1 ≤ n) : tuple n = { uncurry n with family := .tuple } :=
  if_neg (Nat.ne_of_gt hn)

end Member

open Member

/-- The applied body is written as the callee with one call after the other. -/
theorem Call.words_applied (callee : List String) (args : List Nat) :
    (applied args).words callee = callee ++ args.flatMap fun i => ["(", argumentName i, ")"] := by
  have hfold (c : Call) : (args.foldl .apply c).words callee =
      c.words callee ++ args.flatMap fun i => ["(", argumentName i, ")"] := by
    induction args generalizing c with
    | nil => exact (List.append_nil _).symm
    | cons i rest ih => rw [List.foldl_cons, ih, words, List.flatMap_cons, List.append_assoc]
  exact hfold .callee

/-! ## The code, word by word -/

/-- The names of the inputs, in order. -/
def inputNames (n : Nat) : List String := (List.range' 1 n).map fun i => s!"T{i}"

/-- The names of the arguments, in order. -/
def argumentNames (n : Nat) : List String := (List.range' 1 n).map fun i => s!"a{i}"

/-- The name of the type of a chain of `n` functions after `i` calls. -/
def stageName (n i : Nat) : String := if i = 0 then "F" else if i < n then s!"R{i}" else "R"

/-- The bound that the callee after `i - 1` calls can be applied to the argument `i`. -/
def linkWords (n i : Nat) : List String :=
  [stageName n (i - 1), ":", "::", "core", "::", "ops", "::", "FnOnce", "(", s!"T{i}", ")", "->", stageName n i]

/-- The type of a stored chain of functions that takes the inputs of these numbers and ends in a text. -/
def chainWords : List Nat → List String
  | [] => ["::", "std", "::", "string", "::", "String"]
  | i :: rest => ["crate", "::", "Curried", "<", s!"T{i}", ","] ++ chainWords rest ++ [">"]

/-- The names in a tuple: a comma stands after each. -/
def tupleOf (names : List String) : List String := ["("] ++ names.flatMap (fun name => [name, ","]) ++ [")"]

namespace Family

/-- The names of the type parameters. -/
def typeNames : Family → Nat → List String
  | .sprintf, n => inputNames n
  | .tuple, 0 => ["F"]
  | _, n => ["F"] ++ inputNames n ++ ((List.range' 1 (n - 1)).map fun i => s!"R{i}") ++ ["R"]

/-- The type parameters in their brackets. -/
def genericWords (f : Family) (n : Nat) : List String :=
  ["<"] ++ [","].intercalate ((f.typeNames n).map fun name => [name]) ++ [">"]

/-- The parameters in their brackets: what is applied comes first, then the arguments with their types. -/
def parameterWords (f : Family) (n : Nat) : List String :=
  let typed := (List.range' 1 n).map fun i => [s!"a{i}", ":", s!"T{i}"]
  match f, n with
  | .sprintf, _ =>
    ["("] ++ [","].intercalate
      ((["spec", ":", "&", "crate", "::", "Spec", "<", "::", "std", "::", "string", "::", "String", ","] ++
        chainWords (List.range' 1 n) ++ [">"]) :: typed) ++ [")"]
  | .uncurry, _ => ["("] ++ [","].intercalate (["f", ":", "F"] :: typed) ++ [")"]
  | .tuple, 0 => ["(", "self", ",", "_args", ":", "(", ")", ")"]
  | .tuple, _ => ["(", "self", ","] ++ tupleOf (argumentNames n) ++ [":"] ++ tupleOf (inputNames n) ++ [")"]

/-- The clause with the bounds. -/
def clauseWords (n : Nat) : List String := ["where"] ++ [","].intercalate ((List.range' 1 n).map (linkWords n))

/-- The calls with the arguments in order, in braces, after what is applied. -/
def bodyWords (f : Family) (n : Nat) : List String :=
  let callee :=
    match f with
    | .sprintf => ["crate", "::", "sprintf", "(", "spec", ")"]
    | .uncurry => ["f"]
    | .tuple => ["self"]
  ["\x7b"] ++ callee ++ (argumentNames n).flatMap (fun name => ["(", name, ")"]) ++ ["\x7d"]

/-- What stands in front of the type parameters. -/
def headWords : Family → Nat → List String
  | .sprintf, n =>
    ["#", "[", "doc", "=",
      s!"\"Discharges a spec with exactly {n} argument(s), in placeholder order.\\n\\n" ++
        s!"Equivalent to `sprintf(spec)` followed by {n} call(s).\"",
      "]", "pub", "fn", s!"sprintf{n}"]
  | .uncurry, n =>
    ["#", "[", "doc", "=", s!"\"Applies a chain of {n} single-argument functions to {n} arguments, in order.\"", "]", "pub",
      "fn", s!"uncurry{n}"]
  | .tuple, _ => ["impl"]

/-- What stands between the type parameters and the parameters. -/
def middleWords : Family → Nat → List String
  | .tuple, 0 =>
    ["crate", "::", "Uncurry", "<", "(", ")", ">", "for", "F", "\x7b", "type", "Output", "=", "F", ";", "#", "[", "inline",
      "]", "fn", "uncurry"]
  | .tuple, n =>
    ["crate", "::", "Uncurry", "<"] ++ tupleOf (inputNames n) ++ [">", "for", "F"] ++ clauseWords n ++
      ["\x7b", "type", "Output", "=", "R", ";", "#", "[", "inline", "]", "fn", "uncurry"]
  | _, _ => []

/-- What stands behind the parameters. -/
def tailWords : Family → Nat → List String
  | .sprintf, n => ["->", "::", "std", "::", "string", "::", "String"] ++ bodyWords .sprintf n
  | .uncurry, n => ["->", "R"] ++ clauseWords n ++ bodyWords .uncurry n
  | .tuple, 0 => ["->", "F"] ++ bodyWords .tuple 0 ++ ["\x7d"]
  | .tuple, n => ["->", "R"] ++ bodyWords .tuple n ++ ["\x7d"]

/-- The code of the member with `n` arguments. -/
def declaration (f : Family) (n : Nat) : List String :=
  f.headWords n ++ f.genericWords n ++ f.middleWords n ++ f.parameterWords n ++ f.tailWords n

variable {f : Family} {n : Nat}

/-- Members that take a chain are all declared like that of a plain function. -/
theorem member_eq_uncurry (hf : f ≠ .sprintf) (hn : 1 ≤ n) : f.member n = { Member.uncurry n with family := f } := by
  cases f with
  | sprintf => exact absurd rfl hf
  | uncurry => rfl
  | tuple => exact tuple_eq_uncurry hn

end Family

/-- The name of a type of the chain. -/
theorem name_stage (n i : Nat) : (stage n i).name = stageName n i := by
  unfold stage stageName
  split
  · rfl
  · split <;> rfl

theorem words_link (n i : Nat) : (link n i).words = linkWords n i := by
  simp only [link, Bound.words, name_stage]
  rfl

theorem words_chain (is : List Nat) : (chain (is.map .input)).words = chainWords is := by
  induction is with
  | nil => rfl
  | cons i rest ih =>
    rw [List.map_cons, chain, TypeTerm.words, ih]
    rfl

theorem words_applied_numbers (callee : List String) (n : Nat) :
    (applied (numbers n)).words callee = callee ++ (argumentNames n).flatMap fun name => ["(", name, ")"] := by
  rw [Call.words_applied, argumentNames, List.flatMap_map]
  rfl

namespace Family

/-- The type parameters of a member by name. -/
theorem typeParams_names (f : Family) (n : Nat) : (f.member n).typeParams.map TypeVar.name = f.typeNames n := by
  have hinputs : (inputs n).map TypeVar.name = inputNames n := List.map_map
  have huncurry : (Member.uncurry n).typeParams.map TypeVar.name = uncurry.typeNames n := by
    simp only [Member.uncurry, typeNames, List.map_append, List.map_cons, hinputs, middles, List.map_map]
    rfl
  cases f with
  | sprintf => exact hinputs
  | uncurry => exact huncurry
  | tuple =>
    cases n with
    | zero => rfl
    | succ n =>
      rw [member_eq_uncurry (f := .tuple) nofun (Nat.succ_pos n)]
      exact huncurry

theorem generics_member (f : Family) (n : Nat) : (f.member n).generics = f.genericWords n := by
  rw [Member.generics, genericWords, ← typeParams_names, List.map_map]
  rfl

/-- The arguments, each with its type, as they are declared. -/
theorem declared_of_arguments {m : Member} {n : Nat} (h : m.arguments = (numbers n).zip (inputs n)) :
    m.declared = (List.range' 1 n).map fun i => [s!"a{i}", ":", s!"T{i}"] := by
  rw [Member.declared, h, zip_inputs, List.map_map]
  rfl

/-- The clause with the links. -/
theorem whereClause_of_bounds {m : Member} {n : Nat} (h : m.bounds = chainBounds (middles n) .callee 0 (inputs n)) :
    m.whereClause = clauseWords n := by
  have hlinks : m.bounds.map Bound.words = (List.range' 1 n).map (linkWords n) := by
    rw [h, chainBounds_inputs, List.map_map]
    exact List.map_congr_left fun i _ => words_link n i
  rw [Member.whereClause, hlinks]
  rfl

/-- The code of the member that discharges a specification. -/
theorem words_sprintf (n : Nat) : (Member.sprintf n).words = sprintf.declaration n := by
  have hgenerics : (Member.sprintf n).generics = sprintf.genericWords n := generics_member .sprintf n
  have hdeclared := declared_of_arguments (m := Member.sprintf n) rfl
  have hchain : (Member.sprintf n).calleeType.words = chainWords (List.range' 1 n) := by
    rw [calleeType_sprintf]
    exact words_chain _
  have hbody := words_applied_numbers (ownPath ["sprintf"] ++ ["(", "spec", ")"]) n
  change (Member.sprintf n).sprintfWords = _
  unfold sprintfWords
  rw [hgenerics, hdeclared, hchain]
  change _ ++ braced ((applied (numbers n)).words _) = _
  rw [hbody]
  simp only [declaration, headWords, middleWords, parameterWords, tailWords, bodyWords, braced, parenthesized,
    List.append_assoc]
  rfl

/-- The code of the member that applies a chain of functions. -/
theorem words_uncurry (n : Nat) : (Member.uncurry n).words = uncurry.declaration n := by
  have hgenerics : (Member.uncurry n).generics = uncurry.genericWords n := generics_member .uncurry n
  have hdeclared := declared_of_arguments (m := Member.uncurry n) rfl
  have hclause := whereClause_of_bounds (m := Member.uncurry n) rfl
  have hbody := words_applied_numbers ["f"] n
  change (Member.uncurry n).uncurryWords = _
  unfold uncurryWords
  rw [hgenerics, hdeclared, hclause]
  change _ ++ braced ((applied (numbers n)).words _) = _
  rw [hbody]
  simp only [declaration, headWords, middleWords, parameterWords, tailWords, bodyWords, braced, parenthesized,
    List.append_assoc]
  rfl

/-- A tuple of the arguments, and one of their types. -/
theorem parenthesized_terminated_arguments {m : Member} {n : Nat} (h : m.arguments = (numbers n).zip (inputs n)) :
    parenthesized (terminated (m.arguments.map fun (i, _) => [argumentName i])) = tupleOf (argumentNames n) ∧
      parenthesized (terminated (m.arguments.map fun (_, v) => [v.name])) = tupleOf (inputNames n) := by
  rw [h, zip_inputs, tupleOf, tupleOf, argumentNames, inputNames, List.flatMap_map, List.flatMap_map]
  simp only [parenthesized, terminated, List.map_map, List.flatMap_map]
  exact ⟨rfl, rfl⟩

/-- The code of the member that applies a chain of functions to a tuple. -/
theorem words_tuple {n : Nat} (hn : 1 ≤ n) : (Member.tuple n).words = tuple.declaration n := by
  have hzero : n ≠ 0 := Nat.ne_of_gt hn
  have hmember := tuple_eq_uncurry hn
  have hfamily : (Member.tuple n).family = .tuple := by rw [hmember]
  have harity : (Member.tuple n).arity = n := by rw [hmember]; rfl
  have hresult : (Member.tuple n).result.words = ["R"] := by rw [hmember]; rfl
  have happlied : (Member.tuple n).body = applied (numbers n) := by rw [hmember]; rfl
  have hgenerics : (Member.tuple n).generics = tuple.genericWords n := generics_member .tuple n
  have hclause : (Member.tuple n).whereClause = clauseWords n := whereClause_of_bounds (by rw [hmember]; rfl)
  obtain ⟨harguments, htypes⟩ := parenthesized_terminated_arguments (m := Member.tuple n) (n := n) (by rw [hmember]; rfl)
  have hwords : (Member.tuple n).words = (Member.tuple n).tupleWords := by rw [Member.words, hfamily]
  rw [hwords, Member.tupleWords, hgenerics, harity, hclause, harguments, htypes, hresult, happlied, words_applied_numbers]
  simp only [if_neg hzero, declaration, headWords, middleWords, parameterWords, tailWords, bodyWords, braced, parenthesized,
    List.append_assoc]
  rfl

/-- The code of a member, word by word. -/
theorem words_member (f : Family) (n : Nat) : (f.member n).words = f.declaration n := by
  cases f with
  | sprintf => exact words_sprintf n
  | uncurry => exact words_uncurry n
  | tuple =>
    by_cases hn : n = 0
    · subst hn
      rfl
    · exact words_tuple (Nat.pos_of_ne_zero hn)

end Family

end TypedFormat.Arity

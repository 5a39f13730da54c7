import Mathlib.Data.List.Nodup
import TypedFormat.Proofs.Arity.Declaration

/-!
# Names in the code of a member

The code of a member names type variables and arguments by numbered names. Different variables have different names
(`TypeVar.name_injective`, `argumentName_injective`), and no other word of the code is such a name (`Plain`). So a member whose
parts mention declared variables only (`Member.Closed`) is written in code that names declared variables only
(`Member.Closed.admits_words`): writing it out neither takes two variables for one nor brings in a new one.

`Family.Scoped` says this of the words alone: the names in the first angle brackets and those of the parameters are all that the
code names, and each stands there once.
-/

namespace TypedFormat.Arity

/-! ## Numbered names -/

/-- A number is known from its digits. -/
theorem toDigits_injective : Function.Injective (Nat.toDigits 10) := by
  intro i j h
  calc
    i = Nat.ofDigitChars 10 (Nat.toDigits 10 i) 0 := Nat.ofDigitChars_ten_toDigits.symm
    _ = Nat.ofDigitChars 10 (Nat.toDigits 10 j) 0 := by rw [h]
    _ = j := Nat.ofDigitChars_ten_toDigits

/-- A text with a number after it ends in the digits of the number. -/
theorem toList_append_number (s : String) (i : Nat) : (s ++ toString i).toList = s.toList ++ Nat.toDigits 10 i := by
  rw [String.toList_append]
  exact congrArg _ Nat.toList_repr

namespace TypeVar

/-- The letter that the name of the variable starts with. -/
def letter : TypeVar → Char
  | callee => 'F'
  | input _ => 'T'
  | middle _ => 'R'
  | result => 'R'

/-- The digits in the name of the variable. -/
def digits : TypeVar → List Char
  | callee => []
  | input i => Nat.toDigits 10 i
  | middle i => Nat.toDigits 10 i
  | result => []

/-- A name is a letter with a number after it, or the letter alone. -/
theorem toList_name (v : TypeVar) : v.name.toList = v.letter :: v.digits := by
  cases v with
  | callee => rfl
  | input i => exact toList_append_number "T" i
  | middle i => exact toList_append_number "R" i
  | result => rfl

/-- Different variables have different names. -/
theorem name_injective : Function.Injective name := by
  intro v w h
  have hchars := congrArg String.toList h
  rw [toList_name, toList_name] at hchars
  obtain ⟨hletter, hdigits⟩ := List.cons.inj hchars
  cases v <;> cases w <;> simp only [letter, Char.reduceEq] at hletter
  case callee.callee => rfl
  case input.input i j => rw [toDigits_injective hdigits]
  case middle.middle i j => rw [toDigits_injective hdigits]
  case middle.result i => exact absurd hdigits Nat.toDigits_ne_nil
  case result.middle i => exact absurd hdigits.symm Nat.toDigits_ne_nil
  case result.result => rfl

end TypeVar

/-- The name of an argument is a letter with a number after it. -/
theorem toList_argumentName (i : Nat) : (argumentName i).toList = 'a' :: Nat.toDigits 10 i := toList_append_number "a" i

/-- Different arguments have different names. -/
theorem argumentName_injective : Function.Injective argumentName := by
  intro i j h
  have hchars := congrArg String.toList h
  rw [toList_argumentName, toList_argumentName] at hchars
  exact toDigits_injective (List.cons.inj hchars).2

/-- An argument has not the name of a type variable. -/
theorem argumentName_ne_name (i : Nat) (v : TypeVar) : argumentName i ≠ v.name := by
  intro h
  have hchars := congrArg String.toList h
  rw [toList_argumentName, TypeVar.toList_name] at hchars
  have hletter : 'a' = v.letter := (List.cons.inj hchars).1
  cases v <;> simp only [TypeVar.letter, Char.reduceEq] at hletter

/-! ## Words that are no such names -/

/-- The word is the name of no type variable and of no argument. -/
def Plain (w : String) : Prop := (∀ v : TypeVar, w ≠ v.name) ∧ ∀ i, w ≠ argumentName i

/-- The word starts with another letter than these names. -/
def Foreign (w : String) : Prop := w.toList ≠ [] ∧ w.toList.head? ∉ [some 'F', some 'T', some 'R', some 'a']

instance (w : String) : Decidable (Foreign w) := inferInstanceAs (Decidable (_ ∧ _))

/-- What comes after the first letter does not matter. -/
theorem Foreign.append {s : String} (h : Foreign s) (tail : String) : Foreign (s ++ tail) := by
  constructor
  · rw [String.toList_append]
    exact List.append_ne_nil_of_left_ne_nil h.1 _
  · rw [String.toList_append, List.head?_append_of_ne_nil _ h.1]
    exact h.2

/-- Such a word is plain. -/
theorem Foreign.plain {w : String} (h : Foreign w) : Plain w := by
  constructor
  · rintro v rfl
    have hletter := h.2
    rw [TypeVar.toList_name] at hletter
    cases v <;> exact hletter (by simp [TypeVar.letter])
  · rintro i rfl
    have hletter := h.2
    rw [toList_argumentName] at hletter
    exact hletter (by simp)

/-- The name of the trait of functions is longer than the name of the variable that starts like it. -/
theorem plain_fnOnce : Plain "FnOnce" := by
  have hlit : "FnOnce".toList = 'F' :: ['n', 'O', 'n', 'c', 'e'] := rfl
  constructor
  · intro v h
    have hchars := congrArg String.toList h
    rw [hlit, TypeVar.toList_name] at hchars
    obtain ⟨hletter, hdigits⟩ := List.cons.inj hchars
    cases v <;> simp only [TypeVar.letter, Char.reduceEq] at hletter
    cases hdigits
  · intro i h
    have hchars := congrArg String.toList h
    rw [hlit, toList_argumentName] at hchars
    exact absurd (List.cons.inj hchars).1 (by decide)

/-! ## What the parts of a member mention -/

/-- The variables of a type. -/
def TypeTerm.vars : TypeTerm → List TypeVar
  | .var v => [v]
  | .text => []
  | .curried input rest => input :: rest.vars

/-- The arguments that a body names, in the order of the calls. -/
def Call.arguments : Call → List Nat
  | .callee => []
  | .apply f i => f.arguments ++ [i]

/-- The arguments that a member declares. -/
def Member.argumentNumbers (m : Member) : List Nat := m.arguments.map Prod.fst

/-- The parts of a member mention declared variables and declared arguments only. The type of a chain of functions is a variable
itself. -/
structure Member.Closed (m : Member) : Prop where
  argument : ∀ p ∈ m.arguments, p.2 ∈ m.typeParams
  bound : ∀ b ∈ m.bounds, b.callee ∈ m.typeParams ∧ b.input ∈ m.typeParams ∧ b.output ∈ m.typeParams
  calleeType : ∀ v ∈ m.calleeType.vars, v ∈ m.typeParams
  callee : m.family ≠ .sprintf → .callee ∈ m.typeParams
  result : ∀ v ∈ m.result.vars, v ∈ m.typeParams
  body : ∀ i ∈ m.body.arguments, i ∈ m.argumentNumbers

/-! ## What the words of a member mention -/

/-- The word, where it is the name of a variable or of an argument, is that of a declared one. -/
structure Member.Admits (m : Member) (w : String) : Prop where
  typeVar : ∀ v : TypeVar, w = v.name → v ∈ m.typeParams
  argument : ∀ i, w = argumentName i → i ∈ m.argumentNumbers

namespace Member

variable {m : Member}

/-- A member admits all words of a list. -/
def AdmitsAll (m : Member) (ws : List String) : Prop := ∀ w ∈ ws, m.Admits w

theorem Admits.of_plain {w : String} (h : Plain w) : m.Admits w :=
  ⟨fun v hv => absurd hv (h.1 v), fun i hi => absurd hi (h.2 i)⟩

/-- The name of a declared variable is admitted: it is the name of no other variable. -/
theorem Admits.of_typeVar {v : TypeVar} (h : v ∈ m.typeParams) : m.Admits v.name :=
  ⟨fun _ hw => TypeVar.name_injective hw ▸ h, fun i hi => absurd hi.symm (argumentName_ne_name i v)⟩

/-- So is the name of a declared argument. -/
theorem Admits.of_argument {i : Nat} (h : i ∈ m.argumentNumbers) : m.Admits (argumentName i) :=
  ⟨fun v hv => absurd hv (argumentName_ne_name i v), fun _ hj => argumentName_injective hj ▸ h⟩

/-- A word that starts with another letter is admitted. -/
@[simp] theorem Admits.of_foreign {w : String} (h : Foreign w) : m.Admits w := .of_plain h.plain

@[simp] theorem Admits.append {s : String} (h : Foreign s) (tail : String) : m.Admits (s ++ tail) :=
  .of_foreign (h.append tail)

@[simp] theorem admitsAll_nil : m.AdmitsAll [] := nofun

@[simp] theorem admitsAll_cons {w : String} {ws : List String} : m.AdmitsAll (w :: ws) ↔ m.Admits w ∧ m.AdmitsAll ws :=
  List.forall_mem_cons

@[simp] theorem admitsAll_append {ws us : List String} : m.AdmitsAll (ws ++ us) ↔ m.AdmitsAll ws ∧ m.AdmitsAll us :=
  List.forall_mem_append

/-- Commas do not matter. -/
@[simp] theorem admitsAll_separated {groups : List (List String)} :
    m.AdmitsAll (separated groups) ↔ ∀ g ∈ groups, m.AdmitsAll g := by
  rw [separated]
  induction groups with
  | nil => simp
  | cons g rest ih =>
    cases rest with
    | nil => simp
    | cons g' rest =>
      rw [List.intercalate_cons_cons, admitsAll_append, ih]
      simp (disch := decide)

@[simp] theorem admitsAll_terminated {groups : List (List String)} :
    m.AdmitsAll (terminated groups) ↔ ∀ g ∈ groups, m.AdmitsAll g := by
  rw [terminated]
  induction groups with
  | nil => simp
  | cons g rest ih => simp (disch := decide) [ih]

@[simp] theorem admitsAll_parenthesized {ws : List String} : m.AdmitsAll (parenthesized ws) ↔ m.AdmitsAll ws := by
  simp (disch := decide) [parenthesized]

@[simp] theorem admitsAll_braced {ws : List String} : m.AdmitsAll (braced ws) ↔ m.AdmitsAll ws := by
  simp (disch := decide) [braced]

/-- A type made of declared variables is written in admitted words. -/
theorem admitsAll_type {t : TypeTerm} (h : ∀ v ∈ t.vars, v ∈ m.typeParams) : m.AdmitsAll t.words := by
  induction t with
  | var v => exact admitsAll_cons.2 ⟨.of_typeVar (h v List.mem_cons_self), admitsAll_nil⟩
  | text => simp (disch := decide) [TypeTerm.words, textType, path]
  | curried input rest ih =>
    have hinput : m.Admits input.name := .of_typeVar (h input List.mem_cons_self)
    have hrest := ih fun v hv => h v (List.mem_cons_of_mem _ hv)
    simp (disch := decide) [TypeTerm.words, ownPath, path, hinput, hrest]

/-- So is a bound. -/
theorem admitsAll_bound {b : Bound} (h : b.callee ∈ m.typeParams ∧ b.input ∈ m.typeParams ∧ b.output ∈ m.typeParams) :
    m.AdmitsAll b.words := by
  have hcallee : m.Admits b.callee.name := .of_typeVar h.1
  have hinput : m.Admits b.input.name := .of_typeVar h.2.1
  have houtput : m.Admits b.output.name := .of_typeVar h.2.2
  have htrait : m.Admits "FnOnce" := .of_plain plain_fnOnce
  simp (disch := decide) [Bound.words, path, hcallee, hinput, houtput, htrait]

/-- So is a body that applies an admitted callee to declared arguments. -/
theorem admitsAll_body {callee : List String} (hcallee : m.AdmitsAll callee) {c : Call}
    (h : ∀ i ∈ c.arguments, i ∈ m.argumentNumbers) : m.AdmitsAll (c.words callee) := by
  induction c with
  | callee => exact hcallee
  | apply f i ih =>
    obtain ⟨hf, hi⟩ := List.forall_mem_append.1 h
    have hname : m.Admits (argumentName i) := .of_argument (hi i List.mem_cons_self)
    simp (disch := decide) [Call.words, ih hf, hname]

/-- The documentation is one literal. -/
theorem admitsAll_doc (m : Member) : m.AdmitsAll m.doc := by
  have hliteral : m.Admits m.docLiteral := by
    unfold docLiteral
    split <;> simp (disch := decide) [String.append_assoc]
  simp (disch := decide) [doc, hliteral]

theorem admitsAll_generics (m : Member) : m.AdmitsAll m.generics := by
  have hparams : ∀ v ∈ m.typeParams, m.Admits v.name := fun v hv => .of_typeVar hv
  simpa (disch := decide) [generics] using hparams

namespace Closed

variable (h : m.Closed)
include h

theorem admitsAll_declared : ∀ g ∈ m.declared, m.AdmitsAll g := by
  intro g hg
  obtain ⟨⟨i, v⟩, hp, rfl⟩ := List.mem_map.1 hg
  have hname : m.Admits (argumentName i) := .of_argument (List.mem_map_of_mem hp)
  have htype : m.Admits v.name := .of_typeVar (h.argument _ hp)
  simp (disch := decide) [hname, htype]

theorem admitsAll_whereClause : m.AdmitsAll m.whereClause := by
  have hbounds : ∀ b ∈ m.bounds, m.AdmitsAll b.words := fun b hb => admitsAll_bound (h.bound b hb)
  simpa (disch := decide) [whereClause] using hbounds

theorem admitsAll_sprintfWords : m.AdmitsAll m.sprintfWords := by
  have hcallee : m.AdmitsAll (ownPath ["sprintf"] ++ ["(", "spec", ")"]) := by simp (disch := decide) [ownPath, path]
  have hbody := admitsAll_body hcallee h.body
  simp only [sprintfWords, admitsAll_append, admitsAll_braced, hbody]
  simpa (disch := decide) [ownPath, textType, path, admitsAll_doc, admitsAll_generics, admitsAll_type h.calleeType,
    admitsAll_type h.result] using h.admitsAll_declared

theorem admitsAll_uncurryWords (hcallee : .callee ∈ m.typeParams) : m.AdmitsAll m.uncurryWords := by
  have htype : m.Admits "F" := .of_typeVar hcallee
  have hf : m.AdmitsAll ["f"] := by simp (disch := decide)
  simpa (disch := decide) [uncurryWords, admitsAll_doc, admitsAll_generics, htype, admitsAll_type h.result,
    h.admitsAll_whereClause, admitsAll_body hf h.body] using h.admitsAll_declared

theorem admitsAll_tupleWords (hcallee : .callee ∈ m.typeParams) : m.AdmitsAll m.tupleWords := by
  unfold tupleWords
  extract_lets types tuple names
  have htype : m.Admits "F" := .of_typeVar hcallee
  have htypes : m.AdmitsAll types := by
    refine admitsAll_parenthesized.2 (admitsAll_terminated.2 fun g hg => ?_)
    obtain ⟨p, hp, rfl⟩ := List.mem_map.1 hg
    exact admitsAll_cons.2 ⟨.of_typeVar (h.argument p hp), admitsAll_nil⟩
  have htuple : m.AdmitsAll tuple := by
    refine admitsAll_parenthesized.2 (admitsAll_terminated.2 fun g hg => ?_)
    obtain ⟨p, hp, rfl⟩ := List.mem_map.1 hg
    exact admitsAll_cons.2 ⟨.of_argument (List.mem_map_of_mem hp), admitsAll_nil⟩
  have hnames : m.AdmitsAll names := by
    unfold names
    split
    · simp (disch := decide)
    · exact htuple
  have hwhere : m.AdmitsAll (if m.arity = 0 then [] else m.whereClause) := by
    split
    · exact admitsAll_nil
    · exact h.admitsAll_whereClause
  have hself : m.AdmitsAll ["self"] := by simp (disch := decide)
  simp (disch := decide) [ownPath, path, htype, admitsAll_generics, htypes, hnames, hwhere, admitsAll_type h.result,
    admitsAll_body hself h.body]

/-- The words of a closed member name nothing that it does not declare. -/
theorem admits_words : ∀ w ∈ m.words, m.Admits w := by
  unfold words
  split
  next => exact h.admitsAll_sprintfWords
  next hf => exact h.admitsAll_uncurryWords (h.callee (hf ▸ nofun))
  next hf => exact h.admitsAll_tupleWords (h.callee (hf ▸ nofun))

end Closed

end Member

/-! ## Scoping of a member -/

/-- The name of the callee in the body of a member. -/
def Family.calleeName : Family → String
  | sprintf => "spec"
  | uncurry => "f"
  | tuple => "self"

theorem Family.plain_calleeName (f : Family) : Plain f.calleeName := by
  cases f <;> exact Foreign.plain (by decide)

/-- The words `ws` of a member with `n` arguments declare each name once, and they name no type variable and no argument that they
do not declare. -/
structure Family.Scoped (f : Family) (n : Nat) (ws : List String) : Prop where
  /-- The type parameters are declared in the first angle brackets. -/
  generics : ∃ front back, "<" ∉ front ∧ ws = front ++ f.genericWords n ++ back
  /-- The arguments are declared, each with its type, after what is applied. -/
  parameters : ∃ front back, ws = front ++ f.parameterWords n ++ back
  typeNames : (f.typeNames n).Nodup
  typeUses : ∀ v : TypeVar, v.name ∈ ws → v.name ∈ f.typeNames n
  valueNames : (f.calleeName :: argumentNames n).Nodup
  valueUses : ∀ i, argumentName i ∈ ws → argumentName i ∈ argumentNames n

/-- Another first letter makes another word. -/
theorem append_ne_of_head? {s w : String} (hs : s.toList ≠ []) (hw : s.toList.head? ≠ w.toList.head?) (tail : String) :
    s ++ tail ≠ w := by
  rintro rfl
  rw [String.toList_append, List.head?_append_of_ne_nil _ hs] at hw
  exact hw rfl

/-- No angle bracket stands in front of the type parameters. -/
theorem Family.not_mem_headWords (f : Family) (n : Nat) : "<" ∉ f.headWords n := by
  intro h
  cases f with
  | sprintf =>
    simp only [headWords, List.mem_cons, List.not_mem_nil, or_false, String.reduceEq, false_or, String.append_assoc] at h
    rcases h with h | h <;> exact append_ne_of_head? (by decide) (by decide) _ h.symm
  | uncurry =>
    simp only [headWords, List.mem_cons, List.not_mem_nil, or_false, String.reduceEq, false_or, String.append_assoc] at h
    rcases h with h | h <;> exact append_ne_of_head? (by decide) (by decide) _ h.symm
  | tuple => exact absurd h (by simp [headWords])

end TypedFormat.Arity

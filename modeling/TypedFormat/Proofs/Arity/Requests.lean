import Mathlib.Data.List.Nodup
import TypedFormat.Arity.Request
import TypedFormat.Proofs.Arity.Declaration

/-!
# The outcome of a request

A request for a family goes through seven checks, and the first that fails is reported (`Request.members_outcome`). What each
check looks at is said in `Request.Fails` without regard to the others: the name is the first tree and the comma the second, and
the literal stands behind these. So several checks can fail at once, and the order of the checks decides. A request that passes
all of them is written as the grammar `Request.Asks` says, and its code is that of one member for each arity that the family has
up to the bound, word by word (`code_of_onePerArity`). What is reported of an error is said in `Request.Reported`.

A check that passes says what stands at its place (`Request.Passes.identifier` and the lemmas after it). With that, reading is
followed up to the first check that fails (`Request.FirstFailure.members_eq`) or to its end (`Request.members_of_passes`), and
one of the two is always the case (`Request.passes_or_firstFailure`).
-/

namespace TypedFormat.Arity

open TypedFormat.Source

/-- The families, with their names and least arities. -/
inductive Family.Listed : Family → String → Nat → Prop where
  | sprintf : Listed .sprintf "sprintf" 1
  | uncurry : Listed .uncurry "uncurry" 2
  | tuple : Listed .tuple "tuple" 0

/-- Every family has the name and the least arity that it is listed with. -/
theorem Family.listed_iff (f : Family) (name : String) (least : Nat) :
    f.Listed name least ↔ f.name = name ∧ f.least = least := by
  constructor
  · rintro (_ | _ | _) <;> exact ⟨rfl, rfl⟩
  · rintro ⟨rfl, rfl⟩
    cases f with
    | sprintf => exact .sprintf
    | uncurry => exact .uncurry
    | tuple => exact .tuple

/-- One member of the family for each arity from its least up to the bound, in increasing order. Each is written as the
declaration for its arity. -/
structure OnePerArity (f : Family) (bound : Nat) (ms : List Member) : Prop where
  increasing : (ms.map Member.arity).Pairwise (· < ·)
  arities : ∀ n, n ∈ ms.map Member.arity ↔ f.least ≤ n ∧ n ≤ bound
  family : ∀ m ∈ ms, m.family = f
  member : ∀ m ∈ ms, m = f.member m.arity
  words : ∀ m ∈ ms, m.words = f.declaration m.arity

/-- A member has the arity that it is made for. -/
theorem Family.arity_member (f : Family) (n : Nat) : (f.member n).arity = n := by
  cases f with
  | sprintf => rfl
  | uncurry => rfl
  | tuple =>
    change (Member.tuple n).arity = n
    unfold Member.tuple
    split
    · next h => exact h.symm
    · rfl

/-- A member belongs to the family that it is made for. -/
theorem Family.family_member (f : Family) (n : Nat) : (f.member n).family = f := by
  cases f with
  | sprintf => rfl
  | uncurry => rfl
  | tuple =>
    change (Member.tuple n).family = .tuple
    unfold Member.tuple
    split <;> rfl

/-- The members up to a bound are one for each arity. -/
theorem Family.onePerArity_members (f : Family) (bound : Nat) : OnePerArity f bound (f.members bound) := by
  have harities : (f.members bound).map Member.arity = f.arities bound := by
    rw [members, List.map_map]
    refine (List.map_congr_left fun n _ => ?_).trans (List.map_id _)
    exact f.arity_member n
  have hmade : ∀ m ∈ f.members bound, m = f.member m.arity := by
    intro m hm
    obtain ⟨n, -, rfl⟩ := List.mem_map.1 hm
    rw [f.arity_member]
  refine ⟨?_, fun n => ?_, fun m hm => ?_, hmade, fun m hm => ?_⟩
  · rw [harities]
    exact List.pairwise_lt_range'
  · rw [harities]
    exact f.mem_arities bound n
  · rw [hmade m hm]
    exact f.family_member _
  · rw [hmade m hm, f.arity_member]
    exact f.words_member _

/-- The code of members, one for each arity, is that of the declarations for these arities, one after the other. -/
theorem code_of_onePerArity {f : Family} {bound : Nat} {ms : List Member} (h : OnePerArity f bound ms) :
    code ms = " ".intercalate ((ms.map Member.arity).flatMap f.declaration) := by
  have hwords : ms.flatMap Member.words = (ms.map Member.arity).flatMap f.declaration := by
    rw [List.flatMap_map]
    exact List.flatMap_congr h.words
  rw [code, hwords]

/-- Under a name that no family has, none is found. -/
theorem Family.ofName?_eq_none {s : String} (h : ∀ f : Family, f.name ≠ s) : ofName? s = none := by
  cases hs : ofName? s with
  | none => rfl
  | some f => exact absurd (name_of_ofName? hs) (h f)

namespace SignedLiteral

/-- The trees start with an integer literal, and the rest follows; a minus sign before a number belongs to the literal. -/
inductive Starts : List Tree → SignedLiteral → List Tree → Prop where
  | number {t : Tree} {n : Nat} {rest : List Tree} : value? t = some n → Starts (t :: rest) ⟨false, n, t.span⟩ rest
  | minus {sign t : Tree} {n : Nat} {rest : List Tree} : isMinus sign = true → value? t = some n →
      Starts (sign :: t :: rest) ⟨true, n, sign.span.through t.span⟩ rest

/-- A minus sign is no number. -/
theorem value?_of_isMinus {t : Tree} (h : isMinus t = true) : value? t = none := by
  cases t with
  | group d o e inner => rfl
  | leaf t =>
    have hkind : t.kind = .operator := by
      simp only [isMinus, Tree.token?, Option.any_some, Token.isOperator, Bool.and_eq_true, beq_iff_eq] at h
      exact h.1
    simp [value?, Tree.token?, hkind]

/-- A literal is read where the trees start with one. -/
theorem read_of_starts {ts rest : List Tree} {l : SignedLiteral} (h : Starts ts l rest) : read ts = .ok (l, rest) := by
  cases h with
  | number hn => simp only [read, hn]
  | minus hs hn => simp only [read, value?_of_isMinus hs, hs, hn]

/-- Trees that start with a literal start with one only. -/
theorem Starts.unique {ts rest rest' : List Tree} {l l' : SignedLiteral} (h : Starts ts l rest)
    (h' : Starts ts l' rest') : l = l' ∧ rest = rest' := by
  have hread := (read_of_starts h).symm.trans (read_of_starts h')
  exact Prod.mk.inj (Except.ok.inj hread)

/-- Either the trees start with a literal, or it is reported as missing. -/
theorem starts_or_read_eq_error (ts : List Tree) :
    (∃ l rest, Starts ts l rest) ∨
      (∀ l rest, ¬Starts ts l rest) ∧ read ts = .error (.here (.expected [.integerLiteral]) .nowhere ts) := by
  by_cases hs : ∃ l rest, Starts ts l rest
  · exact Or.inl hs
  · refine Or.inr ⟨fun l rest h => hs ⟨l, rest, h⟩, ?_⟩
    unfold read
    split
    · rfl
    · next t ts =>
      split
      · next n hn => exact absurd ⟨_, _, .number hn⟩ hs
      · split
        · next u rest hminus =>
          split
          · next n hn => exact absurd ⟨_, _, .minus hminus hn⟩ hs
          · rfl
        · rfl

/-- A number of 64 bits without a sign has its value. -/
theorem word_of_lt {l : SignedLiteral} (hsign : l.negative = false) (hsize : l.value < UInt64.size) :
    l.word = .ok l.value := by
  rw [word, hsign, if_neg Bool.false_ne_true, if_pos hsize]

end SignedLiteral

namespace Request

/-- The checks that a request goes through. -/
inductive Check where
  | identifier
  | family
  | comma
  | literal
  | value
  | leftover
  | bound
  deriving DecidableEq, Repr

/-- The place of the check in their order. -/
def Check.rank : Check → Nat
  | identifier => 0
  | family => 1
  | comma => 2
  | literal => 3
  | value => 4
  | leftover => 5
  | bound => 6

/-- The check fails with this error, whatever the others do. -/
inductive Fails (ts : List Tree) : Check → RequestError → Prop where
  /-- The first tree is a keyword. -/
  | keyword {t : Token} {rest : List Tree} : ts = .leaf t :: rest → t.kind = .word → t.text ∈ keywords →
      Fails ts .identifier (.reading ⟨.keyword t.text, t.span, false⟩)
  /-- There is no first tree, or it is no word. -/
  | noWord : (∀ t rest, ts = .leaf t :: rest → t.kind ≠ .word) →
      Fails ts .identifier (.reading (.here (.expected [.identifier]) .nowhere ts))
  | family {name : Token} {rest : List Tree} : ts = .leaf name :: rest → (∀ f : Family, f.name ≠ name.text) →
      Fails ts .family (.unknownFamily name)
  | comma : (∀ t c rest, ts = t :: c :: rest → c.isComma = false) →
      Fails ts .comma (.reading (.here (.operator ",") .nowhere (ts.drop 1)))
  | literal : (∀ l rest, ¬SignedLiteral.Starts (ts.drop 2) l rest) →
      Fails ts .literal (.reading (.here (.expected [.integerLiteral]) .nowhere (ts.drop 2)))
  | signed {l : SignedLiteral} {rest : List Tree} : SignedLiteral.Starts (ts.drop 2) l rest → l.negative = true →
      Fails ts .value (.signed l.place)
  | overflow {l : SignedLiteral} {rest : List Tree} : SignedLiteral.Starts (ts.drop 2) l rest → l.negative = false →
      UInt64.size ≤ l.value → Fails ts .value (.overflow l.place)
  /-- A tree that is no comma stands behind the literal. -/
  | leftover {l : SignedLiteral} {t : Tree} {more : List Tree} : SignedLiteral.Starts (ts.drop 2) l (t :: more) →
      t.isComma = false → Fails ts .leftover (.reading ⟨.stray none, t.place, false⟩)
  /-- A tree stands behind the literal and a comma. -/
  | leftoverAfterComma {l : SignedLiteral} {c t : Tree} {more : List Tree} :
      SignedLiteral.Starts (ts.drop 2) l (c :: t :: more) → c.isComma = true →
      Fails ts .leftover (.reading ⟨.stray none, t.place, false⟩)
  | tooSmall {f : Family} {name : Token} {after rest : List Tree} {l : SignedLiteral} : ts = .leaf name :: after →
      name.text = f.name → SignedLiteral.Starts (ts.drop 2) l rest → l.value < f.least →
      Fails ts .bound (.bound (.tooSmall l.value f.least) l.place)
  | tooLarge {f : Family} {name : Token} {after rest : List Tree} {l : SignedLiteral} : ts = .leaf name :: after →
      name.text = f.name → SignedLiteral.Starts (ts.drop 2) l rest → f.least ≤ l.value → maxArity < l.value →
      Fails ts .bound (.bound (.tooLarge l.value) l.place)

/-- The check does not fail. -/
def Passes (ts : List Tree) (c : Check) : Prop := ∀ e, ¬Fails ts c e

/-- The check fails with this error, and no check before it fails. -/
structure FirstFailure (ts : List Tree) (c : Check) (e : RequestError) : Prop where
  fails : Fails ts c e
  earlier : ∀ d : Check, d.rank < c.rank → Passes ts d

/-- What is said where something is expected at the front of the trees. -/
def expecting (ts : List Tree) (what : String) : String :=
  if ts.isEmpty then "unexpected end of input, expected " ++ what else "expected " ++ what

/-- The place of the first tree. -/
def frontPlace (ts : List Tree) : Span := (ts.head?.map Tree.blamed).getD .nowhere

/-- What is reported of an error: its text and the place that it points at. -/
inductive Reported : RequestError → String → Span → Prop where
  | keyword (word : String) (place : Span) : Reported (.reading ⟨.keyword word, place, false⟩)
      ("expected identifier, found keyword `" ++ word ++ "`") place
  | identifier (ts : List Tree) : Reported (.reading (.here (.expected [.identifier]) .nowhere ts))
      (expecting ts "identifier") (frontPlace ts)
  | unknownFamily (name : Token) : Reported (.unknownFamily name)
      ("Unknown arity family '" ++ name.text ++ "'. Expected sprintf, uncurry or tuple") name.span
  | comma (ts : List Tree) : Reported (.reading (.here (.operator ",") .nowhere ts)) "expected `,`" (frontPlace ts)
  | literal (ts : List Tree) : Reported (.reading (.here (.expected [.integerLiteral]) .nowhere ts))
      (expecting ts "integer literal") (frontPlace ts)
  | signed (place : Span) : Reported (.signed place) "invalid digit found in string" place
  | overflow (place : Span) : Reported (.overflow place) "number too large to fit in target type" place
  | leftover (place : Span) : Reported (.reading ⟨.stray none, place, false⟩) "unexpected token" place
  | tooSmall (bound least : Nat) (place : Span) : Reported (.bound (.tooSmall bound least) place)
      ("Arity " ++ toString bound ++ " is below the smallest arity of this family (" ++ toString least ++ ")") place
  | tooLarge (bound : Nat) (place : Span) : Reported (.bound (.tooLarge bound) place)
      ("Arity " ++ toString bound ++ " exceeds the maximum supported arity (16)") place

/-- What is reported is the message of the error, at its place. -/
theorem Reported.eq {e : RequestError} {text : String} {place : Span} (h : Reported e text place) :
    e.message = text ∧ e.span = place := by
  cases h with
  | identifier ts => cases ts <;> exact ⟨rfl, rfl⟩
  | comma ts => cases ts <;> exact ⟨rfl, rfl⟩
  | literal ts => cases ts <;> exact ⟨rfl, rfl⟩
  | tooLarge bound place =>
    have htail : " exceeds the maximum supported arity (" ++ (toString maxArity ++ ")") =
        " exceeds the maximum supported arity (16)" := by decide
    rw [← htail, ← String.append_assoc, ← String.append_assoc]
    exact ⟨rfl, rfl⟩
  | _ => exact ⟨rfl, rfl⟩

/-- Every error of a check is reported. -/
theorem Fails.reported {ts : List Tree} {c : Check} {e : RequestError} (h : Fails ts c e) : Reported e e.message e.span := by
  have hsome : ∃ text place, Reported e text place := by
    cases h with
    | keyword _ _ _ => exact ⟨_, _, .keyword _ _⟩
    | noWord _ => exact ⟨_, _, .identifier _⟩
    | family _ _ => exact ⟨_, _, .unknownFamily _⟩
    | comma _ => exact ⟨_, _, .comma _⟩
    | literal _ => exact ⟨_, _, .literal _⟩
    | signed _ _ => exact ⟨_, _, .signed _⟩
    | overflow _ _ _ => exact ⟨_, _, .overflow _⟩
    | leftover _ _ => exact ⟨_, _, .leftover _⟩
    | leftoverAfterComma _ _ => exact ⟨_, _, .leftover _⟩
    | tooSmall _ _ _ _ => exact ⟨_, _, .tooSmall _ _ _⟩
    | tooLarge _ _ _ _ _ => exact ⟨_, _, .tooLarge _ _⟩
  obtain ⟨text, place, hreported⟩ := hsome
  obtain ⟨rfl, rfl⟩ := hreported.eq
  exact hreported

/-- Trees that name a family and, after a comma, write a greatest arity at its place; one more comma may follow. -/
inductive Asks : List Tree → Family → Nat → Span → Prop where
  | intro {name : Token} {f : Family} {comma number : Tree} {bound : Nat} {tail : List Tree} :
      name.isIdentifier = true → name.text = f.name → comma.isComma = true →
      SignedLiteral.value? number = some bound → (tail = [] ∨ ∃ last : Tree, last.isComma = true ∧ tail = [last]) →
      Asks (.leaf name :: comma :: number :: tail) f bound number.span

/-! ## What passing a check says -/

section Passing

variable {ts : List Tree}

theorem Passes.identifier (h : Passes ts .identifier) :
    ∃ name rest, ts = .leaf name :: rest ∧ name.isIdentifier = true := by
  by_cases hword : ∃ t rest, ts = .leaf t :: rest ∧ t.kind = .word
  · obtain ⟨t, rest, rfl, hkind⟩ := hword
    by_cases hkey : t.text ∈ keywords
    · exact absurd (Fails.keyword rfl hkind hkey) (h _)
    · refine ⟨t, rest, rfl, ?_⟩
      simp [Token.isIdentifier, hkind, hkey]
  · exact absurd (Fails.noWord fun t rest he hkind => hword ⟨t, rest, he, hkind⟩) (h _)

theorem Passes.family {name : Token} {rest : List Tree} (h : Passes (.leaf name :: rest) .family) :
    ∃ f : Family, name.text = f.name := by
  by_contra hnone
  exact h _ (Fails.family rfl fun f hf => hnone ⟨f, hf.symm⟩)

theorem Passes.comma (h : Passes ts .comma) : ∃ t c rest, ts = t :: c :: rest ∧ c.isComma = true := by
  by_contra hnone
  refine h _ (Fails.comma fun t c rest he => ?_)
  by_contra hc
  exact hnone ⟨t, c, rest, he, Bool.not_eq_false _ ▸ hc⟩

theorem Passes.literal (h : Passes ts .literal) : ∃ l rest, SignedLiteral.Starts (ts.drop 2) l rest := by
  by_contra hnone
  exact h _ (Fails.literal fun l rest hl => hnone ⟨l, rest, hl⟩)

variable {l : SignedLiteral} {rest : List Tree} (hl : SignedLiteral.Starts (ts.drop 2) l rest)

include hl

theorem Passes.value (h : Passes ts .value) : l.negative = false ∧ l.value < UInt64.size := by
  have hsign : l.negative = false := by
    by_contra hs
    exact h _ (Fails.signed hl (Bool.not_eq_false _ ▸ hs))
  refine ⟨hsign, ?_⟩
  by_contra hlarge
  exact h _ (Fails.overflow hl hsign (Nat.le_of_not_lt hlarge))

theorem Passes.leftover (h : Passes ts .leftover) :
    rest = [] ∨ ∃ last : Tree, last.isComma = true ∧ rest = [last] := by
  cases rest with
  | nil => exact Or.inl rfl
  | cons t more =>
    cases ht : t.isComma with
    | false => exact absurd (Fails.leftover hl ht) (h _)
    | true =>
      cases more with
      | nil => exact Or.inr ⟨t, ht, rfl⟩
      | cons u more => exact absurd (Fails.leftoverAfterComma hl ht) (h _)

theorem Passes.bound (h : Passes ts .bound) {f : Family} {name : Token} {after : List Tree}
    (hts : ts = .leaf name :: after) (hname : name.text = f.name) : f.least ≤ l.value ∧ l.value ≤ maxArity := by
  have hleast : f.least ≤ l.value := by
    by_contra hs
    exact h _ (Fails.tooSmall hts hname hl (Nat.lt_of_not_le hs))
  refine ⟨hleast, ?_⟩
  by_contra hlarge
  exact h _ (Fails.tooLarge hts hname hl hleast (Nat.lt_of_not_le hlarge))

end Passing

/-! ## Reading a request, as far as the checks pass -/

section Reading

variable {ts : List Tree} {name : Token} {f : Family} {c : Tree}

/-- A request without an identifier at its front is refused for that. -/
theorem read_of_identifier_fails {e : RequestError} (h : Fails ts .identifier e) : read ts = .error e := by
  cases h with
  | @keyword t rest hts hkind hkey =>
    subst hts
    have hid : t.isIdentifier = false := by simp [Token.isIdentifier, hkey]
    have hplace : t.blamed = t.span := by simp [Token.blamed, hkind]
    unfold read
    simp only [readName, hid, Bool.false_eq_true, if_false, hkind, if_true, SyntaxError.here, Tree.blamed, hplace]
    rfl
  | noWord hno =>
    cases ts with
    | nil => rfl
    | cons t rest =>
      cases t with
      | group d o e inner => rfl
      | leaf t =>
        have hkind : t.kind ≠ .word := hno t rest rfl
        have hid : t.isIdentifier = false := by simp [Token.isIdentifier, hkind]
        unfold read
        simp only [readName, hid, Bool.false_eq_true, if_false, if_neg hkind]
        rfl

variable (hname : name.isIdentifier = true)

include hname

/-- A request under a name that no family has is refused for that, whatever comes after it. -/
theorem read_of_unknown (hnone : ∀ f : Family, f.name ≠ name.text) (rest : List Tree) :
    read (.leaf name :: rest) = .error (.unknownFamily name) := by
  have hfamily : Family.ofName? name.text = none := Family.ofName?_eq_none hnone
  unfold read
  simp only [readName, hname, if_true, bind, Except.bind, hfamily, Option.elim]

variable (hf : name.text = f.name)

include hf

/-- After the family, what comes next decides. -/
theorem read_of_family (rest : List Tree) :
    read (.leaf name :: rest) = readComma rest >>= fun ts => (SignedLiteral.read ts).mapError .reading >>= fun r =>
      r.1.word >>= fun bound =>
        match skipComma r.2 with
        | [] => .ok ⟨f, bound, r.1.place⟩
        | t :: _ => .error (.reading ⟨.stray none, t.place, false⟩) := by
  have hfamily : Family.ofName? name.text = some f := by rw [hf, f.ofName?_name]
  unfold read
  simp only [readName, hname, if_true, bind, Except.bind, hfamily, Option.elim]
  rfl

/-- A request without a comma after the family is refused for that. -/
theorem read_of_comma_fails {rest : List Tree} {e : RequestError} (h : Fails (.leaf name :: rest) .comma e) :
    read (.leaf name :: rest) = .error e := by
  rw [read_of_family hname hf]
  cases h with
  | comma hno =>
    cases rest with
    | nil => rfl
    | cons c rest =>
      have hc := hno _ c rest rfl
      simp only [readComma, hc, Bool.false_eq_true, if_false]
      rfl

variable (hc : c.isComma = true)

include hc

/-- A request without a literal after the comma is refused for that. -/
theorem read_of_literal_fails {rest : List Tree} {e : RequestError} (h : Fails (.leaf name :: c :: rest) .literal e) :
    read (.leaf name :: c :: rest) = .error e := by
  rw [read_of_family hname hf]
  simp only [readComma, hc, if_true]
  cases h with
  | literal hno =>
    rcases SignedLiteral.starts_or_read_eq_error rest with ⟨l, after, hl⟩ | ⟨-, hr⟩
    · exact absurd hl (hno l after)
    · simp only [bind, Except.bind, hr]
      rfl

/-- After the literal, its value and what is left over decide. -/
theorem read_of_literal {l : SignedLiteral} {rest after : List Tree}
    (hl : SignedLiteral.Starts ((.leaf name :: c :: rest).drop 2) l after) :
    read (.leaf name :: c :: rest) = l.word >>= fun bound =>
      match skipComma after with
      | [] => .ok ⟨f, bound, l.place⟩
      | t :: _ => .error (.reading ⟨.stray none, t.place, false⟩) := by
  have hread : SignedLiteral.read rest = .ok (l, after) := SignedLiteral.read_of_starts hl
  rw [read_of_family hname hf]
  simp only [readComma, hc, if_true, bind, Except.bind, hread]
  rfl

end Reading

/-! ## The request as a whole -/

section Outcome

variable {ts : List Tree} {f : Family} {bound : Nat} {place : Span}

/-- A request under the name of a family, as far as the name. -/
theorem named_of_passes (hi : Passes ts .identifier) (hf : Passes ts .family) :
    ∃ (name : Token) (f : Family) (rest : List Tree),
      ts = .leaf name :: rest ∧ name.isIdentifier = true ∧ name.text = f.name := by
  obtain ⟨name, rest, rfl, hname⟩ := hi.identifier
  obtain ⟨f, htext⟩ := hf.family
  exact ⟨name, f, rest, rfl, hname, htext⟩

/-- A request under the name of a family, as far as the comma. -/
theorem separated_of_passes (hi : Passes ts .identifier) (hf : Passes ts .family) (hc : Passes ts .comma) :
    ∃ (name : Token) (f : Family) (c : Tree) (rest : List Tree),
      ts = .leaf name :: c :: rest ∧ name.isIdentifier = true ∧ name.text = f.name ∧ c.isComma = true := by
  obtain ⟨name, f, rest, rfl, hname, htext⟩ := named_of_passes hi hf
  obtain ⟨t, c, rest, he, hcomma⟩ := hc.comma
  obtain ⟨rfl, rfl⟩ := List.cons.inj he
  exact ⟨name, f, c, rest, rfl, hname, htext, hcomma⟩

/-- A request that passes all checks but the last asks for a family up to a bound of 64 bits. -/
theorem asks_of_passes (h : ∀ c : Check, c.rank < Check.bound.rank → Passes ts c) :
    ∃ f bound place, Asks ts f bound place ∧ bound < UInt64.size := by
  obtain ⟨name, f, c, rest, rfl, hname, htext, hcomma⟩ :=
    separated_of_passes (h .identifier (by decide)) (h .family (by decide)) (h .comma (by decide))
  obtain ⟨l, after, hl⟩ := (h .literal (by decide)).literal
  obtain ⟨hsign, hsize⟩ := (h .value (by decide)).value hl
  have hend := (h .leftover (by decide)).leftover hl
  change SignedLiteral.Starts rest l after at hl
  cases hl with
  | number hn => exact ⟨f, _, _, .intro hname htext hcomma hn hend, hsize⟩
  | minus hs hn => cases hsign

/-- The family and the bound that a request asks for are those that the last check looks at. -/
theorem Asks.passes_bound (h : Asks ts f bound place) (hpass : Passes ts .bound) : f.least ≤ bound ∧ bound ≤ maxArity := by
  cases h with
  | @intro name f comma number bound tail _ hname _ hn _ =>
    have hl : SignedLiteral.Starts ((.leaf name :: comma :: number :: tail).drop 2) ⟨false, bound, number.span⟩ tail :=
      .number hn
    exact hpass.bound hl rfl hname

/-- A bound of 64 bits is read, and the place where it stands. -/
theorem read_of_asks (h : Asks ts f bound place) (hsize : bound < UInt64.size) : read ts = .ok ⟨f, bound, place⟩ := by
  cases h with
  | @intro name f comma number bound tail hname htext hcomma hn hend =>
    have hl : SignedLiteral.Starts (number :: tail) ⟨false, bound, number.span⟩ tail := .number hn
    rw [read_of_literal hname htext hcomma hl]
    have hskip : skipComma tail = [] := by
      rcases hend with rfl | ⟨last, hlast, rfl⟩
      · rfl
      · simp only [skipComma, hlast, if_true]
    have hword : (SignedLiteral.mk false bound number.span).word = .ok bound := SignedLiteral.word_of_lt rfl hsize
    simp only [hword, bind, Except.bind, hskip]

/-- The members of a request that was read are those up to the bound, if the family has it. -/
theorem members_of_read {r : Request} (h : read ts = .ok r) :
    members ts = ((r.family.check r.bound).mapError fun e => .bound e r.place).map fun _ => r.family.members r.bound := by
  unfold members
  rw [h]
  simp only [bind, Except.bind]
  cases r.family.check r.bound <;> rfl

/-- A request that cannot be read is refused for that. -/
theorem members_of_read_error {e : RequestError} (h : read ts = .error e) : members ts = .error e := by
  unfold members
  rw [h]
  rfl

/-- A request for a bound that the family has gives its members. -/
theorem members_of_asks (h : Asks ts f bound place) (hleast : f.least ≤ bound) (hmost : bound ≤ maxArity) :
    members ts = .ok (f.members bound) := by
  have hsize : bound < UInt64.size := Nat.lt_of_le_of_lt hmost (by decide)
  have hcheck : f.check bound = .ok () := (f.check_eq_ok_iff bound).2 ⟨hleast, hmost⟩
  rw [members_of_read (read_of_asks h hsize)]
  simp only [hcheck]
  rfl

/-- Where the bound is the first check that fails, all else is well formed, and the bound is refused at its place. -/
theorem FirstFailure.asks {e : RequestError} (h : FirstFailure ts .bound e) :
    ∃ f bound place b, Asks ts f bound place ∧ bound < UInt64.size ∧ f.check bound = .error b ∧ e = .bound b place := by
  obtain ⟨f, bound, place, hasks, hsize⟩ := asks_of_passes h.earlier
  refine ⟨f, bound, place, ?_⟩
  cases hasks with
  | @intro name f comma number bound tail hname htext hcomma hn hend =>
    -- The failed check speaks of a family and of a literal, and these are the ones that the request names.
    have hsame : ∀ {g : Family} {other : Token} {after rest : List Tree} {l : SignedLiteral},
        .leaf name :: comma :: number :: tail = Tree.leaf other :: after → other.text = g.name →
        SignedLiteral.Starts (number :: tail) l rest → g = f ∧ l = ⟨false, bound, number.span⟩ := by
      intro g other after rest l hts hother hl
      cases hts
      have hfamily : some g = some f := by rw [← g.ofName?_name, ← f.ofName?_name, ← htext, ← hother]
      exact ⟨Option.some.inj hfamily, (hl.unique (.number hn)).1⟩
    cases h.fails with
    | tooSmall hts hother hl hlt =>
      obtain ⟨rfl, rfl⟩ := hsame hts hother hl
      refine ⟨_, .intro hname htext hcomma hn hend, hsize, ?_, rfl⟩
      rw [Family.check, if_pos hlt]
    | tooLarge hts hother hl hle hlt =>
      obtain ⟨rfl, rfl⟩ := hsame hts hother hl
      refine ⟨_, .intro hname htext hcomma hn hend, hsize, ?_, rfl⟩
      rw [Family.check, if_neg (Nat.not_lt.2 hle), if_pos hlt]

/-- The first check that fails is reported. -/
theorem FirstFailure.members_eq {c : Check} {e : RequestError} (h : FirstFailure ts c e) : members ts = .error e := by
  have hpass := h.earlier
  cases c with
  | identifier => exact members_of_read_error (read_of_identifier_fails h.fails)
  | family =>
    obtain ⟨name, rest, rfl, hname⟩ := (hpass .identifier (by decide)).identifier
    cases h.fails with
    | family hts hnone =>
      cases hts
      exact members_of_read_error (read_of_unknown hname hnone _)
  | comma =>
    obtain ⟨name, f, rest, rfl, hname, htext⟩ :=
      named_of_passes (hpass .identifier (by decide)) (hpass .family (by decide))
    exact members_of_read_error (read_of_comma_fails hname htext h.fails)
  | literal =>
    obtain ⟨name, f, c, rest, rfl, hname, htext, hcomma⟩ :=
      separated_of_passes (hpass .identifier (by decide)) (hpass .family (by decide)) (hpass .comma (by decide))
    exact members_of_read_error (read_of_literal_fails hname htext hcomma h.fails)
  | value =>
    obtain ⟨name, f, c, rest, rfl, hname, htext, hcomma⟩ :=
      separated_of_passes (hpass .identifier (by decide)) (hpass .family (by decide)) (hpass .comma (by decide))
    refine members_of_read_error ?_
    cases h.fails with
    | signed hl hsign =>
      rw [read_of_literal hname htext hcomma hl, SignedLiteral.word, if_pos hsign]
      rfl
    | overflow hl hsign hlarge =>
      rw [read_of_literal hname htext hcomma hl, SignedLiteral.word, hsign, if_neg Bool.false_ne_true,
        if_neg (Nat.not_lt.2 hlarge)]
      rfl
  | leftover =>
    obtain ⟨name, f, c, rest, rfl, hname, htext, hcomma⟩ :=
      separated_of_passes (hpass .identifier (by decide)) (hpass .family (by decide)) (hpass .comma (by decide))
    refine members_of_read_error ?_
    cases h.fails with
    | leftover hl ht =>
      obtain ⟨hsign, hsize⟩ := (hpass .value (by decide)).value hl
      rw [read_of_literal hname htext hcomma hl, SignedLiteral.word_of_lt hsign hsize]
      simp only [bind, Except.bind, skipComma, ht, Bool.false_eq_true, if_false]
    | leftoverAfterComma hl hc =>
      obtain ⟨hsign, hsize⟩ := (hpass .value (by decide)).value hl
      rw [read_of_literal hname htext hcomma hl, SignedLiteral.word_of_lt hsign hsize]
      simp only [bind, Except.bind, skipComma, hc, if_true]
  | bound =>
    obtain ⟨f, bound, place, b, hasks, hsize, hcheck, rfl⟩ := h.asks
    rw [members_of_read (read_of_asks hasks hsize)]
    simp only [hcheck]
    rfl

/-- Where a check fails, there is a first that fails. -/
theorem exists_firstFailure {c : Check} {e : RequestError} (h : Fails ts c e) : ∃ d e', FirstFailure ts d e' := by
  induction hr : c.rank using Nat.strongRecOn generalizing c e with
  | ind n ih =>
    by_cases hbefore : ∃ d : Check, d.rank < c.rank ∧ ∃ e', Fails ts d e'
    · obtain ⟨d, hd, e', he'⟩ := hbefore
      exact ih d.rank (hr ▸ hd) he' rfl
    · exact ⟨c, e, h, fun d hd e' he' => hbefore ⟨d, hd, e', he'⟩⟩

/-- Either all checks pass, or one is the first that fails. -/
theorem passes_or_firstFailure (ts : List Tree) : (∀ c, Passes ts c) ∨ ∃ c e, FirstFailure ts c e := by
  by_cases hfails : ∃ c e, Fails ts c e
  · obtain ⟨c, e, h⟩ := hfails
    exact Or.inr (exists_firstFailure h)
  · exact Or.inl fun c e h => hfails ⟨c, e, h⟩

/-- A request that passes all checks gives the members of its family up to the bound. -/
theorem members_of_passes (h : ∀ c, Passes ts c) :
    ∃ f bound place, Asks ts f bound place ∧ bound < UInt64.size ∧ f.least ≤ bound ∧ bound ≤ maxArity ∧
      members ts = .ok (f.members bound) := by
  obtain ⟨f, bound, place, hasks, hsize⟩ := asks_of_passes fun c _ => h c
  obtain ⟨hleast, hmost⟩ := hasks.passes_bound (h .bound)
  exact ⟨f, bound, place, hasks, hsize, hleast, hmost, members_of_asks hasks hleast hmost⟩

/-- Members are given for what asks for a family and a bound that it has. -/
theorem members_eq_ok_iff {ms : List Member} : members ts = .ok ms ↔ ∃ f bound place, Asks ts f bound place ∧
    bound < UInt64.size ∧ f.least ≤ bound ∧ bound ≤ maxArity ∧ ms = f.members bound ∧ OnePerArity f bound ms := by
  constructor
  · intro h
    rcases passes_or_firstFailure ts with hpass | ⟨c, e, hfirst⟩
    · obtain ⟨f, bound, place, hasks, hsize, hleast, hmost, hok⟩ := members_of_passes hpass
      cases hok.symm.trans h
      exact ⟨f, bound, place, hasks, hsize, hleast, hmost, rfl, f.onePerArity_members bound⟩
    · cases hfirst.members_eq.symm.trans h
  · rintro ⟨f, bound, place, hasks, -, hleast, hmost, rfl, -⟩
    exact members_of_asks hasks hleast hmost

/-- The error that is reported is that of the first check that fails. -/
theorem members_eq_error_iff {e : RequestError} : members ts = .error e ↔ ∃ c, FirstFailure ts c e := by
  constructor
  · intro h
    rcases passes_or_firstFailure ts with hpass | ⟨c, e', hfirst⟩
    · obtain ⟨f, bound, place, -, -, -, -, hok⟩ := members_of_passes hpass
      cases hok.symm.trans h
    · cases hfirst.members_eq.symm.trans h
      exact ⟨c, hfirst⟩
  · rintro ⟨c, hfirst⟩
    exact hfirst.members_eq

/-- A source text is answered with the code of the members, or with the report of the error. -/
theorem expand_eq {source : String} (hsource : Tree.read? source = some ts) :
    expand source = ((members ts).mapError RequestError.diagnostic).map code := by
  unfold expand Diagnostic.trees
  rw [hsource]
  simp only [bind, Except.bind]
  cases members ts <;> rfl

/-- There is one list of the numbers from `least` to `bound` in increasing order. -/
theorem eq_of_increasing {least bound : Nat} {ms ns : List Nat} (hms : ms.Pairwise (· < ·))
    (hmem : ∀ n, n ∈ ms ↔ least ≤ n ∧ n ≤ bound) (hns : ns.Pairwise (· < ·)) (hmem' : ∀ n, n ∈ ns ↔ least ≤ n ∧ n ≤ bound) :
    ms = ns := by
  have hperm : ms.Perm ns :=
    (List.perm_ext_iff_of_nodup (hms.imp Nat.ne_of_lt) (hns.imp Nat.ne_of_lt)).2 fun n => (hmem n).trans (hmem' n).symm
  exact hperm.eq_of_pairwise (fun a b _ _ hab hba => absurd hab (Nat.lt_asymm hba)) hms hns

/-- The code that a source text is answered with, for the trees that it has. -/
theorem expand_eq_ok_iff {source text : String} (hsource : Tree.read? source = some ts) :
    expand source = .ok text ↔ ∃ f bound place, Asks ts f bound place ∧ f.least ≤ bound ∧ bound ≤ 16 ∧
      ∃ ns : List Nat, ns.Pairwise (· < ·) ∧ (∀ n, n ∈ ns ↔ f.least ≤ n ∧ n ≤ bound) ∧
        text = " ".intercalate (ns.flatMap f.declaration) := by
  rw [expand_eq hsource]
  constructor
  · intro h
    obtain ⟨ms, hms, rfl⟩ := map_eq_ok_iff.1 h
    cases hmembers : members ts with
    | error e => rw [hmembers] at hms; cases hms
    | ok ms' =>
      rw [hmembers] at hms
      cases hms
      obtain ⟨f, bound, place, hasks, -, hleast, hmost, -, hone⟩ := members_eq_ok_iff.1 hmembers
      exact ⟨f, bound, place, hasks, hleast, hmost, _, hone.increasing, hone.arities, code_of_onePerArity hone⟩
  · rintro ⟨f, bound, place, hasks, hleast, hmost, ns, hns, hmem, rfl⟩
    have hone := f.onePerArity_members bound
    have harities : (f.members bound).map Member.arity = ns := eq_of_increasing hone.increasing hone.arities hns hmem
    rw [members_of_asks hasks hleast hmost, ← harities, ← code_of_onePerArity hone]
    rfl

/-- The report that a source text is answered with, for the trees that it has. -/
theorem expand_eq_error_iff {source : String} {d : Diagnostic} (hsource : Tree.read? source = some ts) :
    expand source = .error d ↔ ∃ c e, FirstFailure ts c e ∧ Reported e d.message d.span := by
  rw [expand_eq hsource]
  constructor
  · intro h
    cases hmembers : members ts with
    | ok ms => rw [hmembers] at h; cases h
    | error e =>
      rw [hmembers] at h
      cases h
      obtain ⟨c, hfirst⟩ := members_eq_error_iff.1 hmembers
      exact ⟨c, e, hfirst, hfirst.fails.reported⟩
  · rintro ⟨c, e, hfirst, hreported⟩
    obtain ⟨hmessage, hspan⟩ := hreported.eq
    rw [hfirst.members_eq]
    cases d
    exact congrArg Except.error (Diagnostic.mk.injEq .. ▸ ⟨hmessage, hspan⟩)

end Outcome

/-- The outcome of a request. Members are given if and only if the trees are the name of a family, a comma, an integer literal
without a sign whose value fits 64 bits and lies between the least arity of the family and `maxArity`, and at most one comma
more; and they are one for each arity up to the value, in increasing order. Otherwise the error is that of the first check that
fails. So a name that no family has is reported whatever comes after it, and a bound that the family does not have only where all
else is well formed, at the place of the number. The names and least arities of the families are those of the list.

A source text that has these trees gives the code of these members and nothing else, each written as the declaration for its
arity, or one report, with the text and the place of the error. -/
theorem members_outcome (ts : List Tree) :
    (∀ (f : Family) name least, f.Listed name least ↔ f.name = name ∧ f.least = least) ∧
    (∀ ms, members ts = .ok ms ↔ ∃ f bound place, Asks ts f bound place ∧ bound < UInt64.size ∧ f.least ≤ bound ∧
      bound ≤ maxArity ∧ ms = f.members bound ∧ OnePerArity f bound ms) ∧
    (∀ e, members ts = .error e ↔ ∃ c, FirstFailure ts c e) ∧
    (∀ name rest, ts = .leaf name :: rest → name.isIdentifier = true → (∀ f : Family, f.name ≠ name.text) →
      members ts = .error (.unknownFamily name)) ∧
    (∀ b place, members ts = .error (.bound b place) →
      ∃ f bound, Asks ts f bound place ∧ bound < UInt64.size ∧ f.check bound = .error b) ∧
    ∀ source, Tree.read? source = some ts →
      (∀ text, expand source = .ok text ↔ ∃ f bound place, Asks ts f bound place ∧ f.least ≤ bound ∧ bound ≤ 16 ∧
        ∃ ns : List Nat, ns.Pairwise (· < ·) ∧ (∀ n, n ∈ ns ↔ f.least ≤ n ∧ n ≤ bound) ∧
          text = " ".intercalate (ns.flatMap f.declaration)) ∧
      ∀ d, expand source = .error d ↔ ∃ c e, FirstFailure ts c e ∧ Reported e d.message d.span := by
  refine ⟨Family.listed_iff, fun ms => members_eq_ok_iff, fun e => members_eq_error_iff, ?_, fun b place h => ?_,
    fun source hsource => ⟨fun text => ?_, fun d => ?_⟩⟩
  · rintro name rest rfl hname hnone
    exact members_of_read_error (read_of_unknown hname hnone rest)
  · obtain ⟨c, hfirst⟩ := members_eq_error_iff.1 h
    cases c with
    | bound =>
      obtain ⟨f, bound, place, b, hasks, hsize, hcheck, he⟩ := hfirst.asks
      cases he
      exact ⟨f, bound, hasks, hsize, hcheck⟩
    | _ => cases hfirst.fails
  · exact expand_eq_ok_iff hsource
  · exact expand_eq_error_iff hsource

/-- An unknown name is reported although no comma follows it. A bound that is too great is reported at its place. A source text
with a comma at its end gives the code of two members. -/
theorem members_outcome_of_source :
    let place (column length : Nat) : Span := ⟨⟨1, column⟩, ⟨1, column + length⟩⟩
    let curry : Token := ⟨.word, "curry", place 0 5, false⟩
    members [.leaf curry, .leaf ⟨.number, "99", place 6 2, false⟩] = .error (.unknownFamily curry) ∧
    expand "uncurry, 17" = .error ⟨"Arity 17 exceeds the maximum supported arity (16)", place 9 2⟩ ∧
    expand "tuple, 1," = .ok
      ("impl < F > crate :: Uncurry < ( ) > for F \x7b type Output = F ; # [ inline ] fn uncurry " ++
        "( self , _args : ( ) ) -> F \x7b self \x7d \x7d " ++
        "impl < F , T1 , R > crate :: Uncurry < ( T1 , ) > for F where F : :: core :: ops :: FnOnce ( T1 ) -> R " ++
        "\x7b type Output = R ; # [ inline ] fn uncurry ( self , ( a1 , ) : ( T1 , ) ) -> R \x7b self ( a1 ) \x7d \x7d") := by
  intro place curry
  have hcurry : ∀ f : Family, f.name ≠ curry.text := by
    intro f
    cases f <;> decide
  obtain ⟨-, -, -, hunknown, -⟩ := members_outcome [.leaf curry, .leaf ⟨.number, "99", place 6 2, false⟩]
  have hlexemes : Text.Scanner.many Lexeme.one "uncurry, 17".toList =
      .ok ([⟨.token .word, "uncurry".toList⟩, ⟨.token .operator, [',']⟩, ⟨.gap, [' ']⟩, ⟨.token .number, ['1', '7']⟩], []) := by
    decide +kernel
  obtain ⟨-, -, herror, -, -, hlarge⟩ := members_outcome
    [.leaf ⟨.word, "uncurry", place 0 7, false⟩, .leaf ⟨.operator, ",", place 7 1, false⟩,
      .leaf ⟨.number, "17", place 9 2, false⟩]
  obtain ⟨c, hfirst⟩ := (herror (.bound (.tooLarge 17) (place 9 2))).1 (by decide +kernel)
  have htext : "Arity " ++ toString 17 ++ " exceeds the maximum supported arity (16)" =
      "Arity 17 exceeds the maximum supported arity (16)" := by decide
  have hlexemes' : Text.Scanner.many Lexeme.one "tuple, 1,".toList =
      .ok ([⟨.token .word, "tuple".toList⟩, ⟨.token .operator, [',']⟩, ⟨.gap, [' ']⟩, ⟨.token .number, ['1']⟩,
        ⟨.token .operator, [',']⟩], []) := by
    decide +kernel
  let last : Tree := .leaf ⟨.operator, ",", place 8 1, false⟩
  obtain ⟨hlisted, -, -, -, -, hpair⟩ := members_outcome
    [.leaf ⟨.word, "tuple", place 0 5, false⟩, .leaf ⟨.operator, ",", place 5 1, false⟩,
      .leaf ⟨.number, "1", place 7 1, false⟩, last]
  refine ⟨hunknown _ _ rfl (by decide) hcurry, ?_, ?_⟩
  · refine ((hlarge _ (Tree.read?_of_lexemes (by decide) hlexemes)).2 _).2 ⟨c, _, hfirst, ?_⟩
    exact htext ▸ Reported.tooLarge 17 (place 9 2)
  · refine ((hpair _ (Tree.read?_of_lexemes (by decide) hlexemes')).1 _).2 ⟨.tuple, 1, place 7 1, ?_, ?_⟩
    · exact .intro (by decide) rfl rfl (by decide) (Or.inr ⟨last, rfl, rfl⟩)
    · refine ⟨by decide, by decide, [0, 1], by decide, fun n => ?_, by decide +kernel⟩
      have hleast : Family.least .tuple = 0 := ((hlisted .tuple "tuple" 0).1 .tuple).2
      simp only [List.mem_cons, List.not_mem_nil, or_false, hleast]
      omega

end Request

end TypedFormat.Arity

import Mathlib.Data.List.Induction
import TypedFormat.Source.SpecCall

/-!
# The grammar of arguments

The arguments of a template are read just from what the grammar `Arguments.Written` says, and what is read are the literal and the
expressions that are written there (`Arguments.read_grammar`). This holds for whatever reads the expressions under the laws of
`Expression.Reader`; an expression is what it reads as a whole (`Expression.Whole`), so it may hold commas of its own.

Expressions with a comma after each are read one after the other, whatever comes behind them
(`Arguments.expressions_append`). That settles both what is accepted and where reading fails: what comes behind them is the last
expression, or nothing, or something that is out of place (`Arguments.Misplaced`).
-/

namespace TypedFormat.Source

namespace Expression

/-- The trees are one expression and nothing else. -/
def Whole (p : Reader) (ts : List Tree) (e : Expression) : Prop := p.read ts = .ok (e, [])

instance (p : Reader) (ts : List Tree) (e : Expression) : Decidable (Whole p ts e) :=
  decidable_of_iff ((p.read ts).toOption.map (fun r => (r.1, r.2.isEmpty)) = some (e, true)) (by
    unfold Whole
    cases p.read ts with
    | error e => simp [Except.toOption]
    | ok r => simp [Except.toOption, Prod.ext_iff])

variable {p : Reader} {ws rest more : List Tree} {e : Expression} {c : Tree}

/-- An expression has a first tree. -/
theorem Whole.ne_nil (h : Whole p ws e) : ws ≠ [] := by
  rintro rfl
  rw [Whole, p.read_nil] at h
  cases h

/-- An expression before a comma is read up to the comma. -/
theorem Whole.read_append (h : Whole p ws e) (hc : c.isComma = true) (more : List Tree) :
    p.read (ws ++ c :: more) = .ok (e, c :: more) := (p.read_append_comma hc).2 h

/-- What is read before a comma is an expression. -/
theorem exists_whole_of_read {ts : List Tree} (h : p.read ts = .ok (e, c :: more)) (hc : c.isComma = true) :
    ∃ ws, Whole p ws e ∧ ts = ws ++ c :: more := by
  obtain ⟨ws, rfl⟩ := p.rest_suffix h
  exact ⟨ws, (p.read_append_comma hc).1 h, rfl⟩

end Expression

namespace Arguments

open Expression

/-! ## The grammar -/

/-- Expressions with a comma after each. -/
inductive Terminated (p : Reader) : List Tree → List Expression → Prop where
  | nil : Terminated p [] []
  | cons {ws rest : List Tree} {c : Tree} {e : Expression} {es : List Expression} :
      Whole p ws e → c.isComma = true → Terminated p rest es → Terminated p (ws ++ c :: rest) (e :: es)

/-- One or more expressions with a comma between any two. -/
inductive Separated (p : Reader) : List Tree → List Expression → Prop where
  | one {ws : List Tree} {e : Expression} : Whole p ws e → Separated p ws [e]
  | cons {ws rest : List Tree} {c : Tree} {e : Expression} {es : List Expression} :
      Whole p ws e → c.isComma = true → Separated p rest es → Separated p (ws ++ c :: rest) (e :: es)

/-- The trees are a string literal alone, or with a comma, or with a comma and expressions with a comma between any two; one more
comma may follow the last expression. -/
inductive Written (p : Reader) : List Tree → Token → List Expression → Prop where
  | alone {t : Token} : t.kind = .string → Written p [.leaf t] t []
  | comma {t : Token} {c : Tree} : t.kind = .string → c.isComma = true → Written p [.leaf t, c] t []
  | renderers {t : Token} {c : Tree} {body tail : List Tree} {es : List Expression} : t.kind = .string →
      c.isComma = true → Separated p body es → (tail = [] ∨ ∃ last : Tree, last.isComma = true ∧ tail = [last]) →
      Written p (.leaf t :: c :: (body ++ tail)) t es

/-- Something is out of place, and reported with this error. -/
inductive Misplaced (p : Reader) : List Tree → SyntaxError → Prop where
  /-- No comma comes after the literal. -/
  | afterLiteral {t : Token} {u : Tree} {rest : List Tree} : t.kind = .string → u.isComma = false →
      Misplaced p (.leaf t :: u :: rest) ⟨.operator ",", u.blamed, false⟩
  /-- No comma comes after an expression that was read. -/
  | afterExpression {t : Token} {c u : Tree} {front more rest : List Tree} {es : List Expression} {e : Expression} :
      t.kind = .string → c.isComma = true → Terminated p front es → p.read more = .ok (e, u :: rest) →
      u.isComma = false → Misplaced p (.leaf t :: c :: (front ++ more)) ⟨.operator ",", u.blamed, false⟩
  /-- A comma comes after a comma. -/
  | secondComma {t : Token} {c d : Tree} {front rest : List Tree} {es : List Expression} : t.kind = .string →
      c.isComma = true → Terminated p front es → d.isComma = true →
      Misplaced p (.leaf t :: c :: (front ++ d :: rest)) ⟨.expression, d.span, false⟩

/-! ## Reading expressions -/

variable {p : Reader} {ws rest more ts : List Tree} {e : Expression} {es : List Expression} {c : Tree}

theorem expressions_nil : expressions p [] = .ok [] := by
  rw [expressions.eq_def]

/-- Where trees are left, an expression is read first. If it ends them it is the last one; otherwise a comma goes before the
others, and anything else is out of place. -/
theorem expressions_of_ne_nil (hne : ts ≠ []) :
    expressions p ts =
      match p.read ts with
      | .error err => .error err
      | .ok (e, []) => .ok [e]
      | .ok (e, u :: rest) =>
        if u.isComma then (expressions p rest).map (e :: ·)
        else .error (.here (.operator ",") .nowhere (u :: rest)) := by
  cases ts with
  | nil => exact absurd rfl hne
  | cons t ts =>
    rw [expressions.eq_def p (t :: ts)]
    dsimp only
    split
    · next h => rw [h]
    · next h => rw [h]
    · next h => rw [h]

/-- An expression that ends the input is the last one. -/
theorem expressions_of_whole (h : Whole p ws e) : expressions p ws = .ok [e] := by
  rw [Whole] at h
  rw [expressions_of_ne_nil (Whole.ne_nil h), h]

/-- After an expression that was read, a comma goes before the others, and anything else is out of place. -/
theorem expressions_of_read {u : Tree} (h : p.read ts = .ok (e, u :: rest)) :
    expressions p ts =
      if u.isComma then (expressions p rest).map (e :: ·) else .error (.here (.operator ",") .nowhere (u :: rest)) := by
  have hne : ts ≠ [] := by
    rintro rfl
    rw [p.read_nil] at h
    cases h
  rw [expressions_of_ne_nil hne, h]

/-- Where no expression can be read, that is reported. -/
theorem expressions_of_read_error {err : SyntaxError} (hne : ts ≠ []) (h : p.read ts = .error err) :
    expressions p ts = .error err := by
  rw [expressions_of_ne_nil hne, h]

/-- Expressions with a comma after each are read one after the other, and then what comes behind them. -/
theorem expressions_append {front : List Tree} (h : Terminated p front es) (more : List Tree) :
    expressions p (front ++ more) = (expressions p more).map (es ++ ·) := by
  induction h with
  | nil =>
    rw [List.nil_append]
    cases expressions p more <;> rfl
  | cons hw hc _ ih =>
    rw [List.append_assoc, List.cons_append, expressions_of_read (hw.read_append hc _), if_pos hc, ih]
    cases expressions p more <;> rfl

/-- Separated expressions are terminated ones with a last one behind them. -/
theorem Separated.exists_last {body : List Tree} (h : Separated p body es) :
    ∃ front init last e, Terminated p front init ∧ Whole p last e ∧ body = front ++ last ∧ es = init ++ [e] := by
  induction h with
  | @one ws e hw => exact ⟨[], [], ws, e, .nil, hw, rfl, rfl⟩
  | @cons ws rest c e es hw hc _ ih =>
    obtain ⟨front, init, last, e', hfront, hlast, rfl, rfl⟩ := ih
    refine ⟨ws ++ c :: front, e :: init, last, e', .cons hw hc hfront, hlast, ?_, rfl⟩
    rw [List.append_assoc, List.cons_append]

/-- A last expression with a comma after it is terminated like those before it. -/
theorem Terminated.concat {front last : List Tree} (h : Terminated p front es) (hlast : Whole p last e)
    (hc : c.isComma = true) : Terminated p (front ++ (last ++ [c])) (es ++ [e]) := by
  induction h with
  | nil => exact .cons hlast hc .nil
  | cons hw hc' _ ih =>
    rw [List.append_assoc, List.cons_append]
    exact .cons hw hc' ih

/-- Separated expressions are read, with or without a comma after the last. -/
theorem expressions_of_separated {body tail : List Tree} (h : Separated p body es)
    (htail : tail = [] ∨ ∃ last : Tree, last.isComma = true ∧ tail = [last]) : expressions p (body ++ tail) = .ok es := by
  obtain ⟨front, init, last, e, hfront, hlast, rfl, rfl⟩ := h.exists_last
  rcases htail with rfl | ⟨c, hc, rfl⟩
  · rw [List.append_nil, expressions_append hfront, expressions_of_whole hlast]
    rfl
  · have hall := hfront.concat hlast hc
    rw [List.append_assoc, ← List.append_nil (front ++ (last ++ [c])), expressions_append hall, expressions_nil]
    simp only [Except.map, List.append_nil]

/-- What expressions are read from is nothing, or separated expressions with or without a comma after the last. -/
theorem separated_of_expressions (h : expressions p ts = .ok es) :
    (ts = [] ∧ es = []) ∨ ∃ body tail, Separated p body es ∧
      (tail = [] ∨ ∃ last : Tree, last.isComma = true ∧ tail = [last]) ∧ ts = body ++ tail := by
  induction hn : ts.length using Nat.strongRecOn generalizing ts es with
  | ind n ih =>
    by_cases hne : ts = []
    · subst hne
      rw [expressions_nil] at h
      cases h
      exact Or.inl ⟨rfl, rfl⟩
    · refine Or.inr ?_
      cases hr : p.read ts with
      | error err =>
        rw [expressions_of_read_error hne hr] at h
        cases h
      | ok r =>
        obtain ⟨e, left⟩ := r
        cases left with
        | nil =>
          rw [expressions_of_whole hr] at h
          cases h
          exact ⟨ts, [], .one hr, Or.inl rfl, (List.append_nil ts).symm⟩
        | cons u rest =>
          rw [expressions_of_read hr] at h
          by_cases hu : u.isComma = true
          · rw [if_pos hu, map_eq_ok_iff] at h
            obtain ⟨es, hes, rfl⟩ := h
            obtain ⟨ws, hw, rfl⟩ := exists_whole_of_read hr hu
            have hlt : rest.length < n := by
              rw [← hn, List.length_append, List.length_cons]
              omega
            rcases ih rest.length hlt hes rfl with ⟨rfl, rfl⟩ | ⟨body, tail, hbody, htail, rfl⟩
            · exact ⟨ws, [u], .one hw, Or.inr ⟨u, hu, rfl⟩, rfl⟩
            · refine ⟨ws ++ u :: body, tail, .cons hw hu hbody, htail, ?_⟩
              rw [List.append_assoc, List.cons_append]
          · rw [if_neg hu] at h
            cases h

/-! ## Reading arguments -/

variable {t : Token}

/-- After the literal and a comma the expressions are read. -/
theorem read_literal_comma (ht : t.kind = .string) (hc : c.isComma = true) (rest : List Tree) :
    read p (.leaf t :: c :: rest) = (expressions p rest).map fun es => ⟨t, es⟩ := by
  rw [read, if_pos ht]
  simp only [hc, if_true]

/-- What is written by the grammar is read. -/
theorem Written.read_eq (h : Written p ts t es) : read p ts = .ok ⟨t, es⟩ := by
  cases h with
  | alone ht => rw [read, if_pos ht]
  | comma ht hc =>
    rw [read_literal_comma ht hc, expressions_nil]
    rfl
  | renderers ht hc hbody htail =>
    rw [read_literal_comma ht hc, expressions_of_separated hbody htail]
    rfl

/-- What is read is written by the grammar. -/
theorem written_of_read {args : Arguments} (h : read p ts = .ok args) : Written p ts args.template args.renderers := by
  unfold read at h
  split at h
  · next t rest =>
    by_cases ht : t.kind = .string
    · rw [if_pos ht] at h
      cases rest with
      | nil =>
        cases h
        exact .alone ht
      | cons u rest =>
        by_cases hu : u.isComma = true
        · simp only [hu, if_true] at h
          obtain ⟨es, hes, rfl⟩ := map_eq_ok_iff.1 h
          rcases separated_of_expressions hes with ⟨rfl, rfl⟩ | ⟨body, tail, hbody, htail, rfl⟩
          · exact .comma ht hu
          · exact .renderers ht hu hbody htail
        · simp only [hu] at h
          cases h
    · rw [if_neg ht] at h
      cases h
  · cases h

/-- Arguments are complete just if no expression has a tree out of place in its groups. -/
theorem complete_eq_ok_iff {args args' : Arguments} :
    complete args = .ok args' ↔ args = args' ∧ ∀ e ∈ args.renderers, e.stray = none := by
  unfold complete
  cases hs : args.renderers.findSome? Expression.stray with
  | some stray =>
    obtain ⟨e, he, hstray⟩ := List.exists_of_findSome?_eq_some hs
    refine ⟨nofun, fun h => ?_⟩
    rw [h.2 e he] at hstray
    cases hstray
  | none =>
    have hnone : ∀ e ∈ args.renderers, e.stray = none := List.findSome?_eq_none_iff.1 hs
    exact ⟨fun h => ⟨Except.ok.inj h, hnone⟩, fun h => congrArg Except.ok h.1⟩

/-- What is out of place is reported. -/
theorem Misplaced.read_eq {err : SyntaxError} (h : Misplaced p ts err) : read p ts = .error err := by
  cases h with
  | afterLiteral ht hu =>
    rw [read, if_pos ht]
    simp only [hu, Bool.false_eq_true, if_false, SyntaxError.here]
  | afterExpression ht hc hfront hmore hu =>
    rw [read_literal_comma ht hc, expressions_append hfront, expressions_of_read hmore, hu,
      if_neg Bool.false_ne_true]
    rfl
  | @secondComma t c d front rest es ht hc hfront hd =>
    have hnone : expressions p (d :: rest) = .error ⟨.expression, d.span, false⟩ :=
      expressions_of_read_error (List.cons_ne_nil d rest) (p.read_comma hd rest)
    rw [read_literal_comma ht hc, expressions_append hfront, hnone]
    rfl

/-- However expressions are read, arguments are read from the trees that the grammar allows and from no others, and what is
read are the literal and the expressions that are written there, so these can be written in one way only. They are kept unless
a tree is out of place in a group of one of the expressions. The expansion depends on nothing else: trees with the same literal
and the same expressions, such as those with and without a comma at the end, have the same expansion or the same report. A tree
other than a comma after the literal or after an expression that was read, and a second comma after a comma, are always
reported, and nothing that is wrong with the template is reported instead. -/
theorem read_grammar (p : Reader) (ts : List Tree) :
    (∀ args, read p ts = .ok args ↔ Written p ts args.template args.renderers) ∧
    (∀ args, read p ts >>= complete = .ok args ↔
      Written p ts args.template args.renderers ∧ ∀ e ∈ args.renderers, e.stray = none) ∧
    (∀ t es, Written p ts t es → ∀ us, Written p us t es → SpecCall.ofTrees p us = SpecCall.ofTrees p ts) ∧
    ∀ err, Misplaced p ts err → read p ts = .error err ∧ SpecCall.ofTrees p ts = .error (.ofSyntaxError err) := by
  have hread : ∀ args, read p ts = .ok args ↔ Written p ts args.template args.renderers :=
    fun args => ⟨written_of_read, fun h => h.read_eq⟩
  refine ⟨hread, fun args => ?_, fun t es h us hus => ?_, fun err h => ⟨h.read_eq, ?_⟩⟩
  · rw [bind_eq_ok_iff]
    constructor
    · rintro ⟨args', hargs, hcomplete⟩
      obtain ⟨rfl, hstray⟩ := complete_eq_ok_iff.1 hcomplete
      exact ⟨(hread args').1 hargs, hstray⟩
    · rintro ⟨hwritten, hstray⟩
      exact ⟨args, (hread args).2 hwritten, complete_eq_ok_iff.2 ⟨rfl, hstray⟩⟩
  · unfold SpecCall.ofTrees
    rw [h.read_eq, hus.read_eq]
  · unfold SpecCall.ofTrees
    rw [h.read_eq]
    rfl

/-- The comma between the bars of a closure belongs to it, and a comma at the end changes nothing. A second comma after the last
renderer is reported before the brace that is out of place in the template. -/
theorem read_grammar_closure :
    let place (column length : Nat) : Span := ⟨⟨1, column⟩, ⟨1, column + length⟩⟩
    let sign (text : String) (column : Nat) : Tree := .leaf ⟨.operator, text, place column 1, false⟩
    let word (text : String) (column : Nat) : Tree := .leaf ⟨.word, text, place column 1, false⟩
    let template : Token := ⟨.string, "\"\x7b\x7d\x7b\x7d\"", place 0 6, false⟩
    let body : List Tree :=
      [word "f" 8, sign "," 9, sign "|" 11, word "a" 12, sign "," 13, word "b" 15, sign "|" 16, word "a" 18]
    let renderers : List Expression :=
      [⟨[⟨"f", false⟩], place 8 1, none⟩,
        ⟨["|", "a", ",", "b", "|", "a"].map fun text => ⟨text, false⟩, place 11 8, none⟩]
    let lone : Token := ⟨.string, "\"\x7d\"", place 0 3, false⟩
    read reader (.leaf template :: sign "," 6 :: body) = .ok ⟨template, renderers⟩ ∧
    SpecCall.ofTrees reader (.leaf template :: sign "," 6 :: (body ++ [sign "," 19])) =
      SpecCall.ofTrees reader (.leaf template :: sign "," 6 :: body) ∧
    Template.Token.read? (Literal.string lone.text) = .error (.unescapedBrace 0) ∧
    SpecCall.ofTrees reader [.leaf lone, sign "," 3, word "f" 5, sign "," 6, sign "," 7] =
      .error ⟨"expected an expression", place 7 1⟩ := by
  intro place sign word template body renderers lone
  have hcomma (column : Nat) : (sign "," column).isComma = true := rfl
  have hbody : Separated reader body renderers := by
    have hfirst : Whole reader [word "f" 8] ⟨[⟨"f", false⟩], place 8 1, none⟩ := by decide +kernel
    have hsecond : Whole reader [sign "|" 11, word "a" 12, sign "," 13, word "b" 15, sign "|" 16, word "a" 18]
        ⟨["|", "a", ",", "b", "|", "a"].map fun text => ⟨text, false⟩, place 11 8, none⟩ := by
      decide +kernel
    exact .cons hfirst (hcomma 9) (.one hsecond)
  have hshort : Written reader (.leaf template :: sign "," 6 :: (body ++ [])) template renderers :=
    .renderers rfl (hcomma 6) hbody (Or.inl rfl)
  have hlong : Written reader (.leaf template :: sign "," 6 :: (body ++ [sign "," 19])) template renderers :=
    .renderers rfl (hcomma 6) hbody (Or.inr ⟨sign "," 19, hcomma 19, rfl⟩)
  rw [List.append_nil] at hshort
  have hfront : Terminated reader [word "f" 5, sign "," 6] [⟨[⟨"f", false⟩], place 5 1, none⟩] := by
    have honly : Whole reader [word "f" 5] ⟨[⟨"f", false⟩], place 5 1, none⟩ := by decide +kernel
    exact .cons honly (hcomma 6) .nil
  have hmisplaced : Misplaced reader [.leaf lone, sign "," 3, word "f" 5, sign "," 6, sign "," 7]
      ⟨.expression, place 7 1, false⟩ := .secondComma rfl (hcomma 3) hfront (hcomma 7)
  obtain ⟨hread, -, hsame, -⟩ := read_grammar reader (.leaf template :: sign "," 6 :: body)
  obtain ⟨-, -, -, herror⟩ := read_grammar reader [.leaf lone, sign "," 3, word "f" 5, sign "," 6, sign "," 7]
  refine ⟨(hread _).2 hshort, hsame _ _ hshort _ hlong, by decide +kernel, ?_⟩
  rw [(herror _ hmisplaced).2]
  rfl

end Arguments

end TypedFormat.Source

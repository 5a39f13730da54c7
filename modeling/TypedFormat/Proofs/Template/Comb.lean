import Mathlib.Data.List.Induction
import TypedFormat.Description
import TypedFormat.Proofs.Discharge.Walk

/-!
# Expansions as combs

The expansion of a template is a left-nested comb over one leaf for each token (`Spells`, `Comb`); a built-in placeholder is
a call of the combinator for its kind (`Builtin.Calls`). Written out, it is the calls for the tokens in calls of `cat`
(`pieces`, `nested`). Read as a format and discharged, it answers like the reference `follow`, which walks the tokens, copies
texts and renders the next argument at each placeholder by what its kind means (`Builtin.shown`); and so does every other
grouping of the same leaves (`Expansion.ofTemplate_denotation`).

The expansion is first tied to its leaves, with the renderers used so far as the invariant (`spells_leaves`), the leaves to
the text of the expression (`outlines_of_spells`), and the leaves to the walk of a discharge (`walk_of_spells`).
-/

namespace TypedFormat

/-! ## What a kind of placeholder means -/

/-- The text of a value at a placeholder of the kind: truth values are capitalised, and any value can be displayed but a list. A
value of another type has none. -/
def Builtin.shown : Builtin → Renderer
  | .bool, .bool true => .ok "True"
  | .bool, .bool false => .ok "False"
  | .int, .int i => .ok (integerText i)
  | .float, .float bits => .ok (Decimal.ofBits64 bits)
  | .string, .string s => .ok s
  | .display, v => v.display
  | _, _ => .error .typeMismatch

/-- The combinator that a placeholder of the kind is a call of. -/
inductive Builtin.Calls : Builtin → Combinator → Prop where
  | bool : Calls .bool .boolean
  | int : Calls .int .int
  | float : Calls .float .float
  | string : Calls .string .string
  | display : Calls .display .display

theorem Builtin.calls_combinator (b : Builtin) : b.Calls b.combinator := by cases b <;> constructor

/-- A kind has one combinator. -/
theorem Builtin.Calls.eq_combinator {b : Builtin} {c : Combinator} (h : b.Calls c) : c = b.combinator := by cases h <;> rfl

/-- The combinator for a kind renders what the kind means. -/
theorem Builtin.Calls.render_eq {b : Builtin} {c : Combinator} (h : b.Calls c) : c.render = b.shown := by
  funext v
  cases h with
  | bool =>
    cases v with
    | bool b => cases b <;> rfl
    | _ => rfl
  | _ => cases v <;> rfl

namespace Template

/-- The reference: the tokens are walked after the text `front`, with the renderers not yet used. There is a renderer for
every token that asks for one; without it the walk would wait. -/
def follow : List Token → List Renderer → (front : String) → List Value → Except Fault Result
  | [], _, front, [] => .ok (.text front)
  | [], _, _, _ :: _ => .error .tooManyArguments
  | .text text :: ts, rs, front, args => follow ts rs (front ++ text) args
  | .builtin _ :: _, _, _, [] => .ok .callable
  | .builtin b :: ts, rs, front, v :: vs => do
    let text ← b.shown v
    follow ts rs (front ++ text) vs
  | .renderer :: ts, r :: rs, front, v :: vs => do
    let text ← r v
    follow ts rs (front ++ text) vs
  | .renderer :: _, _, _, _ => .ok .callable

/-- The calls that stand for tokens, as they are written when `i` literals and `j` renderers stand before them. -/
def pieces (i j : Nat) : List Token → List String
  | [] => []
  | .text _ :: ts => s!"literal(${i})" :: pieces (i + 1) j ts
  | .builtin .bool :: ts => "boolean()" :: pieces i j ts
  | .builtin .int :: ts => "int()" :: pieces i j ts
  | .builtin .float :: ts => "float()" :: pieces i j ts
  | .builtin .string :: ts => "string()" :: pieces i j ts
  | .builtin .display :: ts => "display()" :: pieces i j ts
  | .renderer :: ts => s!"custom(@{j})" :: pieces i (j + 1) ts

/-- Calls joined from left to right, as they are written; without any it is the literal of the empty text. -/
def nested : List String → String
  | [] => "literal($0)"
  | p :: ps => ps.foldl (fun left right => s!"cat({left},{right})") p

namespace Expansion

variable {ρ : Type}

/-- The leaves that stand for tokens, one for each: texts as literals, built-in placeholders as calls of the combinator for
their kind, and the placeholders for renderers with the given renderers, each used once and in order. -/
inductive Spells : List Token → List ρ → List (Expansion ρ) → Prop where
  | nil : Spells [] [] []
  | text {ts : List Token} {rs : List ρ} {ls : List (Expansion ρ)} (text : String) :
      Spells ts rs ls → Spells (.text text :: ts) rs (.literal text :: ls)
  | builtin {ts : List Token} {rs : List ρ} {ls : List (Expansion ρ)} {kind : Builtin} {c : Combinator} :
      kind.Calls c → Spells ts rs ls → Spells (.builtin kind :: ts) rs (.atom c :: ls)
  | renderer {ts : List Token} {rs : List ρ} {ls : List (Expansion ρ)} (r : ρ) :
      Spells ts rs ls → Spells (.renderer :: ts) (r :: rs) (.custom r :: ls)

/-- The left-nested comb over leaves: no leaf is the empty text, one leaf stands alone, and every further leaf is joined to
all before it. -/
inductive Comb : List (Expansion ρ) → Expansion ρ → Prop where
  | empty : Comb [] (.literal "")
  | single (l : Expansion ρ) : Comb [l] l
  | snoc {ls : List (Expansion ρ)} {x : Expansion ρ} (l : Expansion ρ) :
      ls ≠ [] → Comb ls x → Comb (ls ++ [l]) (.cat x l)

/-- The expression with every renderer replaced. -/
def map {σ : Type} (g : ρ → σ) : Expansion ρ → Expansion σ
  | literal text => .literal text
  | atom c => .atom c
  | custom r => .custom (g r)
  | cat l r => .cat (l.map g) (r.map g)

/-! ## From tokens to leaves -/

/-- The leaves use the renderers from the first unused one on, and the number of those used is counted up to there. -/
theorem spells_leaves {renderers : List ρ} {used n : Nat} {ts : List Token} {ls : List (Expansion ρ)}
    (h : leaves renderers used ts = .ok (ls, n)) :
    ∃ rs, renderers.drop used = rs ++ renderers.drop n ∧ n = used + rs.length ∧ Spells ts rs ls := by
  induction ts generalizing used ls with
  | nil =>
    cases h
    exact ⟨[], rfl, rfl, .nil⟩
  | cons t ts ih =>
    cases t with
    | text text =>
      obtain ⟨⟨ls, n⟩, hr, h⟩ := map_eq_ok_iff.1 h
      cases h
      obtain ⟨rs, hdrop, hn, hs⟩ := ih hr
      exact ⟨rs, hdrop, hn, hs.text text⟩
    | builtin b =>
      obtain ⟨⟨ls, n⟩, hr, h⟩ := map_eq_ok_iff.1 h
      cases h
      obtain ⟨rs, hdrop, hn, hs⟩ := ih hr
      exact ⟨rs, hdrop, hn, hs.builtin b.calls_combinator⟩
    | renderer =>
      rw [leaves] at h
      cases hu : renderers[used]? with
      | none => rw [hu] at h; cases h
      | some r =>
        rw [hu] at h
        obtain ⟨⟨ls, n⟩, hr, h⟩ := map_eq_ok_iff.1 h
        cases h
        obtain ⟨rs, hdrop, hn, hs⟩ := ih hr
        obtain ⟨hlt, rfl⟩ := List.getElem?_eq_some_iff.1 hu
        refine ⟨renderers[used] :: rs, ?_, ?_, hs.renderer _⟩
        · rw [List.drop_eq_getElem_cons hlt, hdrop, List.cons_append]
        · rw [hn, List.length_cons]
          omega

/-- One more leaf is joined to all before it. -/
theorem join_snoc {ls : List (Expansion ρ)} (hne : ls ≠ []) (l : Expansion ρ) :
    join (ls ++ [l]) = .cat (join ls) l := by
  cases ls with
  | nil => exact absurd rfl hne
  | cons a ls => simp only [List.cons_append, join, List.foldl_append, List.foldl_cons, List.foldl_nil]

/-- Leaves joined from left to right are a comb. -/
theorem comb_join (ls : List (Expansion ρ)) : Comb ls (join ls) := by
  induction ls using List.reverseRecOn with
  | nil => exact .empty
  | append_singleton ls l ih =>
    by_cases hne : ls = []
    · subst hne
      exact .single l
    · rw [join_snoc hne]
      exact .snoc l hne ih

/-- Once the leaves are known, the expansion is their join, unless renderers are left over. -/
theorem ofTokens_of_leaves {ts : List Token} {renderers : List ρ} {ls : List (Expansion ρ)} {used : Nat}
    (h : leaves renderers 0 ts = .ok (ls, used)) :
    ofTokens ts renderers =
      if used < renderers.length then .error (.unusedRenderers (renderers.length - used) used) else .ok (join ls) := by
  unfold ofTokens
  rw [h]
  by_cases hlt : used < renderers.length
  · rw [if_pos hlt]
    simp only [bind, Except.bind, hlt, if_true]
    rfl
  · rw [if_neg hlt]
    simp only [bind, Except.bind, hlt, if_false]
    rfl

/-- An expansion that succeeds is the comb over the leaves that spell the tokens with all renderers. -/
theorem comb_of_ofTokens {ts : List Token} {renderers : List ρ} {x : Expansion ρ} (h : ofTokens ts renderers = .ok x) :
    ∃ ls, Spells ts renderers ls ∧ Comb ls x := by
  obtain ⟨⟨ls, used⟩, hl, -⟩ := bind_eq_ok_iff.1 h
  obtain ⟨rs, hdrop, hused, hs⟩ := spells_leaves hl
  rw [ofTokens_of_leaves hl] at h
  by_cases hlt : used < renderers.length
  · rw [if_pos hlt] at h
    cases h
  · rw [if_neg hlt] at h
    cases h
    rw [List.drop_zero, List.drop_eq_nil_of_le (Nat.le_of_not_lt hlt), List.append_nil] at hdrop
    subst hdrop
    exact ⟨ls, hs, comb_join ls⟩

/-- Leaves that spell tokens are the leaves of these, also with renderers in front that were used before. -/
theorem leaves_of_spells {ts : List Token} {rs : List ρ} {ls : List (Expansion ρ)} (h : Spells ts rs ls) (front : List ρ) :
    leaves (front ++ rs) front.length ts = .ok (ls, (front ++ rs).length) := by
  induction h generalizing front with
  | nil => rw [List.append_nil]; rfl
  | text text hs ih => rw [leaves, ih]; rfl
  | builtin hc hs ih => rw [leaves, ih, hc.eq_combinator]; rfl
  | @renderer ts rs ls r hs ih =>
    have hr : (front ++ r :: rs)[front.length]? = some r := by simp
    have hrest : leaves (front ++ r :: rs) (front.length + 1) ts = .ok (ls, (front ++ r :: rs).length) := by
      have h := ih (front ++ [r])
      rw [← List.append_cons, List.length_append] at h
      exact h
    rw [leaves, hr]
    exact congrArg (Except.map _) hrest

/-- Tokens with leaves that spell them with all renderers expand to the join of these. -/
theorem ofTokens_of_spells {ts : List Token} {rs : List ρ} {ls : List (Expansion ρ)} (h : Spells ts rs ls) :
    ofTokens ts rs = .ok (join ls) := by
  have hl : leaves rs 0 ts = .ok (ls, rs.length) := leaves_of_spells h []
  rw [ofTokens_of_leaves hl, if_neg (Nat.lt_irrefl _)]

/-- A template that was read expands like its tokens. -/
theorem ofTemplate_of_read?_ok {template : String} {ts : List Token} (h : Token.read? template = .ok ts)
    (renderers : List ρ) : ofTemplate template renderers = ofTokens ts renderers := by
  unfold ofTemplate
  rw [h]

/-- A template that cannot be read has no expansion, whatever the renderers. -/
theorem ofTemplate_of_read?_error {template : String} {e : TemplateError} (h : Token.read? template = .error e)
    (renderers : List ρ) : ofTemplate template renderers = .error (.template e) := by
  unfold ofTemplate
  rw [h]

/-- An accepted template has tokens, and leaves that spell these with its renderers and of which it is the comb. -/
theorem spells_of_ofTemplate {template : String} {renderers : List ρ} {x : Expansion ρ}
    (h : ofTemplate template renderers = .ok x) :
    ∃ ts ls, Token.read? template = .ok ts ∧ Spells ts renderers ls ∧ Comb ls x := by
  unfold ofTemplate at h
  cases hts : Token.read? template with
  | error e => rw [hts] at h; cases h
  | ok ts =>
    rw [hts] at h
    obtain ⟨ls, hs, hc⟩ := comb_of_ofTokens h
    exact ⟨ts, ls, rfl, hs, hc⟩

/-! ## From leaves to the written expression -/

/-- The leaves as they are written, when `i` literals and `j` renderers stand before them. -/
def outlines (i j : Nat) : List (Expansion ρ) → List String
  | [] => []
  | l :: ls => l.outlineFrom i j :: outlines (i + l.literals.length) (j + l.customs.length) ls

/-- More leaves are numbered on from those before them. -/
theorem outlines_append (i j : Nat) (ls ms : List (Expansion ρ)) :
    outlines i j (ls ++ ms) =
      outlines i j ls ++ outlines (i + (ls.flatMap literals).length) (j + (ls.flatMap customs).length) ms := by
  induction ls generalizing i j with
  | nil => rfl
  | cons l ls ih =>
    rw [List.cons_append, outlines, ih, outlines, List.flatMap_cons, List.flatMap_cons, List.length_append,
      List.length_append, ← Nat.add_assoc, ← Nat.add_assoc, List.cons_append]

/-- The literals and the renderers of a comb are those of its leaves. -/
theorem literals_customs_of_comb {ls : List (Expansion ρ)} {x : Expansion ρ} (h : Comb ls x) (hne : ls ≠ []) :
    x.literals = ls.flatMap literals ∧ x.customs = ls.flatMap customs := by
  induction h with
  | empty => exact absurd rfl hne
  | single l => exact ⟨by simp, by simp⟩
  | snoc l hls hc ih =>
    obtain ⟨hliterals, hcustoms⟩ := ih hls
    exact ⟨by simp [literals, hliterals], by simp [customs, hcustoms]⟩

/-- A comb is written as its leaves in calls of `cat` from left to right. -/
theorem outline_of_comb {ls : List (Expansion ρ)} {x : Expansion ρ} (h : Comb ls x) : x.outline = nested (outlines 0 0 ls) := by
  induction h with
  | empty => rfl
  | single l => rfl
  | @snoc ls x l hne hc ih =>
    obtain ⟨hliterals, hcustoms⟩ := literals_customs_of_comb hc hne
    cases ls with
    | nil => exact absurd rfl hne
    | cons a ls =>
      have hjoin (p : String) (ps : List String) (q : String) : nested (p :: ps ++ [q]) = s!"cat({nested (p :: ps)},{q})" := by
        simp only [nested, List.cons_append, List.foldl_append, List.foldl_cons, List.foldl_nil]
      rw [outlines_append, outlines, outlines, outlines, hjoin, ← hliterals, ← hcustoms]
      rw [outlines] at ih
      rw [← ih]
      rfl

/-- Leaves that spell tokens are written as the calls for these. -/
theorem outlines_of_spells {ts : List Token} {rs : List ρ} {ls : List (Expansion ρ)} (h : Spells ts rs ls) (i j : Nat) :
    outlines i j ls = pieces i j ts := by
  induction h generalizing i j with
  | nil => rfl
  | text text hs ih => exact congrArg _ (ih (i + 1) j)
  | builtin hc hs ih => cases hc <;> exact congrArg _ (ih i j)
  | renderer r hs ih => exact congrArg _ (ih i (j + 1))

/-! ## From leaves to the walk of a discharge -/

/-- The leaves of the format that an expression stands for, when its renderers mean those given. -/
def formatLeaves (meaning : ρ → Renderer) (x : Expansion ρ) : List (Leaf (Except Fault)) :=
  (x.map meaning).format.leaves

@[simp] theorem formatLeaves_cat (meaning : ρ → Renderer) (l r : Expansion ρ) :
    formatLeaves meaning (.cat l r) = formatLeaves meaning l ++ formatLeaves meaning r := rfl

/-- The format of a comb has the leaves of the comb; without any, it is the empty text. -/
theorem formatLeaves_of_comb {ls : List (Expansion ρ)} {x : Expansion ρ} (h : Comb ls x) (meaning : ρ → Renderer) :
    formatLeaves meaning x = if ls = [] then [.literal ""] else ls.flatMap (formatLeaves meaning) := by
  induction h with
  | empty => rfl
  | single l => simp only [List.cons_ne_nil, if_false, List.flatMap_cons, List.flatMap_nil, List.append_nil]
  | snoc l hne hc ih =>
    rw [if_neg hne] at ih
    rw [formatLeaves_cat, ih, if_neg (List.append_ne_nil_of_right_ne_nil _ (List.cons_ne_nil l [])),
      List.flatMap_append, List.flatMap_singleton]

/-- At a placeholder that has an argument the answer waits for its rendering. -/
theorem walk_placeholder_answer (p : Renderer) (ls : List (Leaf (Except Fault))) (front : String) (v : Value)
    (vs : List Value) :
    (walk (.placeholder p :: ls) front (v :: vs) >>= Reach.answer) =
      p v >>= fun text => walk ls (front ++ text) vs >>= Reach.answer := by
  rw [walk]
  cases p v <;> rfl

/-- Walking the leaves that spell tokens is following the tokens. -/
theorem walk_of_spells {ts : List Token} {rs : List ρ} {ls : List (Expansion ρ)} (h : Spells ts rs ls)
    (meaning : ρ → Renderer) (front : String) (args : List Value) :
    (walk (ls.flatMap (formatLeaves meaning)) front args >>= Reach.answer) = follow ts (rs.map meaning) front args := by
  induction h generalizing front args with
  | nil => cases args <;> rfl
  | text text hs ih => exact ih (front ++ text) args
  | @builtin ts rs ls kind c hc hs ih =>
    cases args with
    | nil => rfl
    | cons v vs =>
      have hw := walk_placeholder_answer c.render (ls.flatMap (formatLeaves meaning)) front v vs
      simp only [ih] at hw
      rw [follow, ← hc.render_eq]
      exact hw
  | @renderer ts rs ls r hs ih =>
    cases args with
    | nil => rfl
    | cons v vs =>
      have hw := walk_placeholder_answer (meaning r) (ls.flatMap (formatLeaves meaning)) front v vs
      simp only [ih] at hw
      exact hw

/-- Discharging the comb over leaves that spell tokens is following the tokens. -/
theorem discharge_of_comb {ts : List Token} {rs : List ρ} {ls : List (Expansion ρ)} {x : Expansion ρ}
    (hs : Spells ts rs ls) (hc : Comb ls x) (meaning : ρ → Renderer) (args : List Value) :
    (x.map meaning).format.discharge .stepwise args = (follow ts (rs.map meaning) "" args).mapError .fault := by
  have hl : (x.map meaning).format.leaves = if ls = [] then [.literal ""] else ls.flatMap (formatLeaves meaning) :=
    formatLeaves_of_comb hc meaning
  rw [Format.discharge_stepwise_eq_walk, hl, ← walk_of_spells hs]
  by_cases hne : ls = []
  · subst hne
    rfl
  · rw [if_neg hne]

/-- An accepted template expands to the left-nested comb over leaves that spell its tokens with its renderers, and it is
written as the calls for the tokens in calls of `cat`. Whatever the renderers mean, the comb is discharged like the tokens are
followed. Every format with the same leaves, however it is grouped and joined, gives the same answers as the comb. -/
theorem ofTemplate_denotation (template : String) (renderers : List ρ) (x : Expansion ρ)
    (h : ofTemplate template renderers = .ok x) :
    ∃ ts ls, Token.read? template = .ok ts ∧ Spells ts renderers ls ∧ Comb ls x ∧ x.outline = nested (pieces 0 0 ts) ∧
      ∀ (meaning : ρ → Renderer) (args : List Value),
        (x.map meaning).format.discharge .stepwise args =
          (follow ts (renderers.map meaning) "" args).mapError .fault ∧
        ∀ t : Format (Except Fault), t.leaves = (x.map meaning).format.leaves →
          ∀ route, t.discharge route args = (x.map meaning).format.discharge route args := by
  obtain ⟨ts, ls, hts, hs, hc⟩ := spells_of_ofTemplate h
  refine ⟨ts, ls, hts, hs, hc, ?_, fun meaning args => ⟨discharge_of_comb hs hc meaning args, fun t ht route => ?_⟩⟩
  · rw [outline_of_comb hc, outlines_of_spells hs]
  · exact Format.discharge_eq_of_leaves_eq ht route args

/-- A brace that is part of a text stands in front of two built-in placeholders, and the renderer of the last placeholder is
given by name. One truth value is capitalised and the other is not: the combinators are those of the two kinds. -/
theorem ofTemplate_denotation_brace_first :
    let template := "\x7b\x7b\x7bbool\x7d/\x7bdisplay\x7d\x7b\x7d"
    let x : Expansion String :=
      .cat (.cat (.cat (.cat (.literal "\x7b") (.atom .boolean)) (.literal "/")) (.atom .display)) (.custom "show")
    ofTemplate template ["show"] = .ok x ∧
      x.outline = "cat(cat(cat(cat(literal($0),boolean()),literal($1)),display()),custom(@0))" ∧
      (x.map fun _ => Renderer.quote).format.discharge .stepwise [.bool true, .bool false, .string "a"] =
        .ok (.text "\x7bTrue/false\"a\"") := by
  intro template x
  have hx : ofTemplate template ["show"] = .ok x := by decide +kernel
  obtain ⟨ts, ls, hts, -, -, houtline, hd⟩ := ofTemplate_denotation template ["show"] x hx
  have hread : Token.read? template = .ok [.text "\x7b", .builtin .bool, .text "/", .builtin .display, .renderer] := by
    decide +kernel
  cases hread.symm.trans hts
  refine ⟨hx, houtline, ?_⟩
  rw [(hd _ _).1]
  rfl

end Expansion

end Template

end TypedFormat

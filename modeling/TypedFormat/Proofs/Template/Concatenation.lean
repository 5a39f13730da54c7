import TypedFormat.Proofs.Template.Comb
import TypedFormat.Proofs.Template.Junction

/-!
# Concatenated templates

Two templates one after the other, with the renderers of both, expand to a specification that is the concatenation of
theirs (`Expansion.ofTemplate_append`). The expressions differ: a comb is not joined to a comb, a text at the end of the first
template and a text at the start of the second are one literal, and a template without tokens is the empty literal. The
specifications agree all the same, since literals side by side are one and the empty literal adds nothing
(`Sized.ofLeaves_literal_literal`, `Sized.ofLeaves_literal_empty`).
-/

namespace TypedFormat.Template

open TypedFormat

namespace Expansion

variable {ρ : Type}

/-! ## Leaves that spell tokens -/

/-- Tokens one after the other are spelled one after the other. -/
theorem Spells.append {ts us : List Token} {rs qs : List ρ} {ls ms : List (Expansion ρ)} (h : Spells ts rs ls)
    (h' : Spells us qs ms) : Spells (ts ++ us) (rs ++ qs) (ls ++ ms) := by
  induction h with
  | nil => exact h'
  | text text _ ih => exact ih.text text
  | builtin hc _ ih => exact ih.builtin hc
  | renderer r _ ih => exact ih.renderer r

/-- What spells tokens that end in a text ends in the literal of it. -/
theorem Spells.of_append_text {front : List Token} {s : String} {rs : List ρ} {ls : List (Expansion ρ)}
    (h : Spells (front ++ [.text s]) rs ls) : ∃ ks, ls = ks ++ [.literal s] ∧ Spells front rs ks := by
  induction front generalizing rs ls with
  | nil =>
    cases h with
    | text text h =>
      cases h
      exact ⟨[], rfl, .nil⟩
  | cons t front ih =>
    cases h with
    | text text h =>
      obtain ⟨ks, rfl, hk⟩ := ih h
      exact ⟨_, rfl, hk.text text⟩
    | builtin hc h =>
      obtain ⟨ks, rfl, hk⟩ := ih h
      exact ⟨_, rfl, hk.builtin hc⟩
    | renderer r h =>
      obtain ⟨ks, rfl, hk⟩ := ih h
      exact ⟨_, rfl, hk.renderer r⟩

/-- Tokens that meet are spelled by leaves that stand for the same as those of both. -/
theorem spells_of_junction {ts us vs : List Token} {rs qs : List ρ} {ls ms : List (Expansion ρ)}
    (h : Junction ts us vs) (hls : Spells ts rs ls) (hms : Spells us qs ms) :
    ∃ ks, Spells vs (rs ++ qs) ks ∧ ∀ (meaning : ρ → Renderer) {n : Nat} {R : Type},
      (Sized.ofLeaves (ks.flatMap (formatLeaves meaning)) : Sized (Except Fault) n R) =
        Sized.ofLeaves (ls.flatMap (formatLeaves meaning) ++ ms.flatMap (formatLeaves meaning)) := by
  cases h with
  | texts front s t back =>
    obtain ⟨init, rfl, hinit⟩ := hls.of_append_text
    cases hms with
    | @text _ _ rest _ hrest =>
      refine ⟨init ++ .literal (s ++ t) :: rest, hinit.append (hrest.text (s ++ t)), fun meaning {n R} => ?_⟩
      rw [List.flatMap_append, List.flatMap_append, List.append_assoc]
      exact Sized.ofLeaves_append_congr (Sized.ofLeaves_literal_literal s t _).symm _
  | apart _ => exact ⟨ls ++ ms, hls.append hms, fun meaning {n R} => by rw [List.flatMap_append]⟩

/-! ## Combs one after the other -/

variable {n : Nat} {R : Type}

/-- A comb stands for its leaves, also before others. -/
theorem ofLeaves_comb_append {ls : List (Expansion ρ)} {x : Expansion ρ} (h : Comb ls x) (meaning : ρ → Renderer)
    (ms : List (Leaf (Except Fault))) :
    (Sized.ofLeaves (formatLeaves meaning x ++ ms) : Sized (Except Fault) n R) =
      Sized.ofLeaves (ls.flatMap (formatLeaves meaning) ++ ms) := by
  rw [formatLeaves_of_comb h]
  by_cases hne : ls = []
  · subst hne
    exact Sized.ofLeaves_literal_empty ms
  · rw [if_neg hne]

/-- A comb stands for its leaves. -/
theorem ofLeaves_comb {ls : List (Expansion ρ)} {x : Expansion ρ} (h : Comb ls x) (meaning : ρ → Renderer) :
    (Sized.ofLeaves (formatLeaves meaning x) : Sized (Except Fault) n R) =
      Sized.ofLeaves (ls.flatMap (formatLeaves meaning)) := by
  have happend := ofLeaves_comb_append (n := n) (R := R) h meaning []
  rw [List.append_nil, List.append_nil] at happend
  exact happend

/-- A comb over leaves that stand for the same as those of two other combs is run like the concatenation of these. -/
theorem run_comb_eq_run_cat {ks ls ms : List (Expansion ρ)} {x y z : Expansion ρ} (hx : Comb ks x) (hy : Comb ls y)
    (hz : Comb ms z) {meaning : ρ → Renderer}
    (h : (Sized.ofLeaves (ks.flatMap (formatLeaves meaning)) : Sized (Except Fault) n R) =
      Sized.ofLeaves (ls.flatMap (formatLeaves meaning) ++ ms.flatMap (formatLeaves meaning)))
    (k : String → Curried (Except Fault) n R) :
    (x.map meaning).format.run k = ((y.map meaning).format.cat (z.map meaning).format).run k := by
  have hleaves : (Sized.ofLeaves (formatLeaves meaning x) : Sized (Except Fault) n R) =
      Sized.ofLeaves (formatLeaves meaning y ++ formatLeaves meaning z) := calc
    _ = Sized.ofLeaves (ks.flatMap (formatLeaves meaning)) := ofLeaves_comb hx meaning
    _ = Sized.ofLeaves (ls.flatMap (formatLeaves meaning) ++ ms.flatMap (formatLeaves meaning)) := h
    _ = Sized.ofLeaves (ls.flatMap (formatLeaves meaning) ++ formatLeaves meaning z) :=
      Sized.ofLeaves_append_congr (ofLeaves_comb hz meaning).symm _
    _ = Sized.ofLeaves (formatLeaves meaning y ++ formatLeaves meaning z) := (ofLeaves_comb_append hy meaning _).symm
  rw [Format.run_eq_ofLeaves, Format.run_eq_ofLeaves]
  exact congrArg (fun s => Sized.run s k) hleaves

/-! ## Whole templates -/

/-- Concatenating templates is concatenating specifications. After an accepted template, another accepted template with its
renderers can follow, as long as both together are not too long and have not too many tokens: their tokens are those of
both, joined, and the expansion is run, with any callback, and discharged, on any route and with any arguments, like the
concatenation of the two specifications. A brace that is out of place in what follows is reported as such, as many bytes later
as the first template has. -/
theorem ofTemplate_append (t : String) (rs : List ρ) (x : Expansion ρ) (ht : ofTemplate t rs = .ok x) :
    ∃ ts, Token.read? t = .ok ts ∧
      (∀ u qs y, ofTemplate u qs = .ok y → ∃ us, Token.read? u = .ok us ∧
        ((t ++ u).utf8ByteSize ≤ maxBytes → (joined ts us).length ≤ maxTokens →
          Token.read? (t ++ u) = .ok (joined ts us) ∧
          ∃ z, ofTemplate (t ++ u) (rs ++ qs) = .ok z ∧ ∀ meaning : ρ → Renderer,
            (∀ {n : Nat} {R : Type} (k : String → Curried (Except Fault) n R),
              (z.map meaning).format.run k = ((x.map meaning).format.cat (y.map meaning).format).run k) ∧
            ∀ route args, (z.map meaning).format.discharge route args =
              ((x.map meaning).format.cat (y.map meaning).format).discharge route args)) ∧
      ∀ kind, kind = TemplateError.unescapedBrace ∨ kind = TemplateError.malformedPlaceholder →
        ∀ u o, Token.read? u = .error (kind o) → (t ++ u).utf8ByteSize ≤ maxBytes →
          Token.read? (t ++ u) = .error (kind (t.utf8ByteSize + o)) ∧
          ∀ qs : List ρ, ofTemplate (t ++ u) qs = .error (.template (kind (t.utf8ByteSize + o))) := by
  obtain ⟨ts, ls, hts, hls, hx⟩ := spells_of_ofTemplate ht
  refine ⟨ts, hts, fun u qs y hu => ?_, fun kind hk u o hu hbytes => ?_⟩
  · obtain ⟨us, ms, hus, hms, hy⟩ := spells_of_ofTemplate hu
    refine ⟨us, hus, fun hbytes hfew => ?_⟩
    have hread := read?_append hts hus hbytes hfew
    obtain ⟨ks, hks, hmeaning⟩ := spells_of_junction (junction_joined ts us) hls hms
    have hz : ofTemplate (t ++ u) (rs ++ qs) = .ok (join ks) := by
      unfold ofTemplate
      rw [hread]
      exact ofTokens_of_spells hks
    refine ⟨hread, join ks, hz, fun meaning => ?_⟩
    have hrun : ∀ {n : Nat} {R : Type} (k : String → Curried (Except Fault) n R),
        ((join ks).map meaning).format.run k = ((x.map meaning).format.cat (y.map meaning).format).run k :=
      fun k => run_comb_eq_run_cat (comb_join ks) hx hy (hmeaning meaning) k
    exact ⟨hrun, Format.discharge_eq_of_sprintf_eq (hrun (n := 0) (R := String) id)⟩
  · have hread := read?_append_of_braceFault hk hts hu hbytes
    exact ⟨hread, ofTemplate_of_read?_error hread⟩

/-- The first template ends and the second starts with a doubled brace; both are in one text when they are put together, and
the second renderer stays with the second template. A lone brace after the first template's doubled one is not read with it,
and a placeholder that is not closed is found after a character of two bytes. -/
theorem ofTemplate_append_braces_meet :
    let x : Expansion String := .cat (.custom "f") (.literal "\x7b")
    let y : Expansion String := .cat (.cat (.literal "\x7d") (.atom .int)) (.custom "g")
    ofTemplate "\x7b\x7d\x7b\x7b" ["f"] = .ok x ∧
    ofTemplate "\x7d\x7d\x7bint\x7d\x7b\x7d" ["g"] = .ok y ∧
    Token.read? "\x7b\x7d\x7b\x7b\x7d\x7d\x7bint\x7d\x7b\x7d" =
      .ok [.renderer, .text "\x7b\x7d", .builtin .int, .renderer] ∧
    (∃ z, ofTemplate "\x7b\x7d\x7b\x7b\x7d\x7d\x7bint\x7d\x7b\x7d" ["f", "g"] = .ok z ∧
      ∀ (meaning : String → Renderer) (args : List Value),
        (z.map meaning).format.discharge .stepwise args =
          ((x.map meaning).format.cat (y.map meaning).format).discharge .stepwise args) ∧
    Token.read? "\x7b\x7d\x7b\x7b\x7d" = .error (.unescapedBrace 4) ∧
    ofTemplate "\x7b\x7d\x7b\x7bé\x7bint" ["f"] = .error (.template (.malformedPlaceholder 6)) := by
  intro x y
  have hx : ofTemplate "\x7b\x7d\x7b\x7b" ["f"] = .ok x := by decide +kernel
  have hy : ofTemplate "\x7d\x7d\x7bint\x7d\x7b\x7d" ["g"] = .ok y := by decide +kernel
  obtain ⟨ts, hts, haccepted, hrefused⟩ := ofTemplate_append _ _ x hx
  obtain ⟨us, hus, htogether⟩ := haccepted _ _ y hy
  have hfirst : Token.read? "\x7b\x7d\x7b\x7b" = .ok [.renderer, .text "\x7b"] := by decide +kernel
  have hsecond : Token.read? "\x7d\x7d\x7bint\x7d\x7b\x7d" = .ok [.text "\x7d", .builtin .int, .renderer] := by
    decide +kernel
  cases hfirst.symm.trans hts
  cases hsecond.symm.trans hus
  obtain ⟨hread, z, hz, hmeaning⟩ := htogether (by decide) (by decide)
  have hlone := hrefused .unescapedBrace (Or.inl rfl) "\x7d" 0 (by decide +kernel) (by decide)
  have hopen := hrefused .malformedPlaceholder (Or.inr rfl) "é\x7bint" 2 (by decide +kernel) (by decide)
  exact ⟨hx, hy, hread, ⟨z, hz, fun meaning args => (hmeaning meaning).2 .stepwise args⟩, hlone.1, hopen.2 ["f"]⟩

end Expansion

end TypedFormat.Template

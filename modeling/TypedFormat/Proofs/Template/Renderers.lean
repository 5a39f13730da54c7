import TypedFormat.Proofs.Template.Comb
import TypedFormat.Source.SpecCall

/-!
# Accounting for renderers

A template asks for as many renderers as it has placeholders for them, wherever its texts and its other placeholders stand. So the
expansion succeeds just with that many (`Expansion.ofTokens_of_length`). With fewer, the first placeholder without one is
reported, and with more, how many are not used and the first of these (`Expansion.ofTokens_of_length_lt`,
`Expansion.ofTokens_of_lt_length`). An error of the template itself comes before all this (`SpecCall.renderers_accounted`).

The invariant of the pass over the tokens is the number of renderers used before. It is the index of the next renderer, and so it
is compared with the number of all renderers twice, at every placeholder and at the end.
-/

namespace TypedFormat.Template.Expansion

variable {ρ : Type}

/-! ## The pass over the tokens -/

/-- A text asks for no renderer. -/
theorem count_renderer_text (text : String) (ts : List Token) :
    (Token.text text :: ts).count .renderer = ts.count .renderer :=
  List.count_cons_of_ne fun h => by cases h

/-- A built-in placeholder asks for no renderer. -/
theorem count_renderer_builtin (kind : Builtin) (ts : List Token) :
    (Token.builtin kind :: ts).count .renderer = ts.count .renderer :=
  List.count_cons_of_ne fun h => by cases h

/-- With enough renderers every token has its leaf, and one renderer is used for each token that asks for one. -/
theorem leaves_of_le {renderers : List ρ} {used : Nat} {ts : List Token}
    (h : used + ts.count .renderer ≤ renderers.length) :
    ∃ ls, leaves renderers used ts = .ok (ls, used + ts.count .renderer) := by
  induction ts generalizing used with
  | nil => exact ⟨[], rfl⟩
  | cons t ts ih =>
    cases t with
    | text text =>
      rw [count_renderer_text] at h ⊢
      obtain ⟨ls, hls⟩ := ih h
      exact ⟨.literal text :: ls, by rw [leaves, hls]; rfl⟩
    | builtin kind =>
      rw [count_renderer_builtin] at h ⊢
      obtain ⟨ls, hls⟩ := ih h
      exact ⟨.atom kind.combinator :: ls, by rw [leaves, hls]; rfl⟩
    | renderer =>
      rw [List.count_cons_self] at h ⊢
      have hused : used < renderers.length := by omega
      have hnext : used + 1 + ts.count .renderer = used + (ts.count .renderer + 1) := by omega
      have hrest : used + 1 + ts.count .renderer ≤ renderers.length := by omega
      obtain ⟨ls, hls⟩ := ih hrest
      rw [hnext] at hls
      refine ⟨.custom renderers[used] :: ls, ?_⟩
      rw [leaves, List.getElem?_eq_getElem hused]
      simp only [hls, Except.map]

/-- With too few renderers the placeholder after the last one is reported, whatever comes between. -/
theorem leaves_of_lt {renderers : List ρ} {used : Nat} {ts : List Token} (hused : used ≤ renderers.length)
    (h : renderers.length < used + ts.count .renderer) :
    leaves renderers used ts = .error (.missingRenderer (renderers.length + 1)) := by
  induction ts generalizing used with
  | nil =>
    rw [List.count_nil] at h
    omega
  | cons t ts ih =>
    cases t with
    | text text =>
      rw [count_renderer_text] at h
      rw [leaves, ih hused h]
      rfl
    | builtin kind =>
      rw [count_renderer_builtin] at h
      rw [leaves, ih hused h]
      rfl
    | renderer =>
      rw [List.count_cons_self] at h
      by_cases hlt : used < renderers.length
      · have hrest : renderers.length < used + 1 + ts.count .renderer := by omega
        rw [leaves, List.getElem?_eq_getElem hlt]
        simp only [ih hlt hrest, Except.map]
      · have hall : used = renderers.length := by omega
        subst hall
        rw [leaves, List.getElem?_eq_none (Nat.le_refl _)]

/-! ## The three outcomes -/

/-- With as many renderers as are asked for there is an expansion. -/
theorem ofTokens_of_length {ts : List Token} {renderers : List ρ} (h : renderers.length = ts.count .renderer) :
    ∃ x, ofTokens ts renderers = .ok x := by
  have hle : 0 + ts.count .renderer ≤ renderers.length := by omega
  obtain ⟨ls, hls⟩ := leaves_of_le hle
  refine ⟨join ls, ?_⟩
  rw [ofTokens_of_leaves hls, if_neg (by omega)]

/-- With fewer renderers the placeholder after the last one is reported. -/
theorem ofTokens_of_length_lt {ts : List Token} {renderers : List ρ} (h : renderers.length < ts.count .renderer) :
    ofTokens ts renderers = .error (.missingRenderer (renderers.length + 1)) := by
  unfold ofTokens
  rw [leaves_of_lt (Nat.zero_le _) (by omega)]
  rfl

/-- With more renderers those that are left over are counted. -/
theorem ofTokens_of_lt_length {ts : List Token} {renderers : List ρ} (h : ts.count .renderer < renderers.length) :
    ofTokens ts renderers =
      .error (.unusedRenderers (renderers.length - ts.count .renderer) (ts.count .renderer)) := by
  have hle : 0 + ts.count .renderer ≤ renderers.length := by omega
  obtain ⟨ls, hls⟩ := leaves_of_le hle
  rw [Nat.zero_add] at hls
  rw [ofTokens_of_leaves hls, if_pos h]

/-- There is an expansion just with as many renderers as are asked for. -/
theorem ofTokens_eq_ok_iff (ts : List Token) (renderers : List ρ) :
    (∃ x, ofTokens ts renderers = .ok x) ↔ renderers.length = ts.count .renderer := by
  constructor
  · rintro ⟨x, hx⟩
    rcases Nat.lt_trichotomy renderers.length (ts.count .renderer) with hlt | heq | hgt
    · rw [ofTokens_of_length_lt hlt] at hx
      cases hx
    · exact heq
    · rw [ofTokens_of_lt_length hgt] at hx
      cases hx
  · exact ofTokens_of_length

/-- Renderers that are reported as not used are at least one, and with those that are used they are all. -/
theorem unused_of_ofTokens {ts : List Token} {renderers : List ρ} {unused used : Nat}
    (h : ofTokens ts renderers = .error (.unusedRenderers unused used)) :
    0 < unused ∧ unused + used = renderers.length := by
  rcases Nat.lt_trichotomy renderers.length (ts.count .renderer) with hlt | heq | hgt
  · rw [ofTokens_of_length_lt hlt] at h
    cases h
  · obtain ⟨x, hx⟩ := ofTokens_of_length heq
    rw [hx] at h
    cases h
  · rw [ofTokens_of_lt_length hgt] at h
    cases h
    omega

end TypedFormat.Template.Expansion

namespace TypedFormat.Source.SpecCall

open TypedFormat.Template

/-- The template expands with the renderers, and so it does written as any literal. -/
def Accepted (template : String) (renderers : List Expression) : Prop :=
  ∃ x, Expansion.ofTemplate template renderers = .ok x ∧
    ∀ literal : Source.Token, Literal.string literal.text = template → ofArguments ⟨literal, renderers⟩ = .ok x

/-- The template is refused with this error. Written as a literal it is reported in these words, at the place that belongs to the
literal. -/
def Refused (template : String) (renderers : List Expression) (e : ExpansionError) (place : Source.Token → Span) : Prop :=
  Expansion.ofTemplate template renderers = .error e ∧
    ∀ literal : Source.Token, Literal.string literal.text = template →
      ofArguments ⟨literal, renderers⟩ = .error ⟨e.message, place literal⟩

variable {template : String} {renderers : List Expression}

/-- A template that expands does so as any literal. -/
theorem accepted_of_ofTemplate {x : Expansion Expression} (h : Expansion.ofTemplate template renderers = .ok x) :
    Accepted template renderers := by
  refine ⟨x, h, fun literal hliteral => ?_⟩
  unfold ofArguments
  rw [hliteral, h]

/-- An error of the expansion is reported at the place that is to blame for it. -/
theorem refused_of_ofTemplate {e : ExpansionError} {place : Source.Token → Span}
    (h : Expansion.ofTemplate template renderers = .error e)
    (hplace : ∀ literal, blamed ⟨literal, renderers⟩ e = place literal) : Refused template renderers e place := by
  refine ⟨h, fun literal hliteral => ?_⟩
  unfold ofArguments
  rw [hliteral, h]
  simp only [hplace]

/-- Every renderer is accounted for. A template that cannot be read is refused with its own error, at its literal, whatever the
renderers are. Any other is accepted just with as many renderers as it has placeholders for them. With `p` renderers, which are
fewer, the placeholder of number `p + 1` is reported at the literal, wherever its texts and its other placeholders stand. With
more, the number of those that are not used is reported with the number `q` of placeholders, at the renderer of index `q`. This
number is never zero, and with `q` it makes up all renderers. -/
theorem renderers_accounted (template : String) (renderers : List Expression) :
    (∀ e, Template.Token.read? template = .error e →
      Refused template renderers (.template e) fun literal => literal.span) ∧
    (∀ ts q, Template.Token.read? template = .ok ts → ts.count .renderer = q →
      (Accepted template renderers ↔ renderers.length = q) ∧
      (renderers.length < q →
        Refused template renderers (.missingRenderer (renderers.length + 1)) fun literal => literal.span) ∧
      ∀ h : q < renderers.length,
        Refused template renderers (.unusedRenderers (renderers.length - q) q) fun _ => renderers[q].span) ∧
    ∀ unused used, Expansion.ofTemplate template renderers = .error (.unusedRenderers unused used) →
      0 < unused ∧ unused + used = renderers.length := by
  refine ⟨fun e he => ?_, fun ts q hts hq => ?_, fun unused used h => ?_⟩
  · exact refused_of_ofTemplate (Expansion.ofTemplate_of_read?_error he renderers) fun literal => rfl
  · subst hq
    have htokens := Expansion.ofTemplate_of_read?_ok hts renderers
    refine ⟨⟨fun h => ?_, fun h => ?_⟩, fun h => ?_, fun h => ?_⟩
    · obtain ⟨x, hx, -⟩ := h
      exact (Expansion.ofTokens_eq_ok_iff ts renderers).1 ⟨x, htokens ▸ hx⟩
    · obtain ⟨x, hx⟩ := Expansion.ofTokens_of_length h
      exact accepted_of_ofTemplate (htokens.trans hx)
    · exact refused_of_ofTemplate (htokens.trans (Expansion.ofTokens_of_length_lt h)) fun literal => rfl
    · refine refused_of_ofTemplate (htokens.trans (Expansion.ofTokens_of_lt_length h)) fun literal => ?_
      simp [blamed, ExpansionError.renderer?, List.getElem?_eq_getElem h]
  · unfold Expansion.ofTemplate at h
    split at h
    · cases h
    · exact Expansion.unused_of_ofTokens h

/-- The second of two placeholders for renderers stands after a built-in one and is missing its renderer. A third renderer is one
too many, and it is the one that is pointed at. -/
theorem renderers_accounted_between :
    let template := "a\x7b\x7d\x7bint\x7d\x7b\x7d"
    let written : Source.Token := ⟨.string, "\"a\x7b\x7d\x7bint\x7d\x7b\x7d\"", ⟨⟨1, 0⟩, ⟨1, 12⟩⟩, false⟩
    let renderer (column : Nat) : Expression := ⟨[⟨"f", false⟩], ⟨⟨1, column⟩, ⟨1, column + 1⟩⟩, none⟩
    Literal.string written.text = template ∧
    ofArguments ⟨written, [renderer 14]⟩ =
      .error ⟨"Renderer placeholder '\x7b\x7d' number 2 has no corresponding argument. " ++
        "Pass a renderer (e.g., |v: MyType| v.to_string()) or use a named placeholder (e.g., '\x7bint\x7d')",
        ⟨⟨1, 0⟩, ⟨1, 12⟩⟩⟩ ∧
    ofArguments ⟨written, [renderer 14, renderer 17, renderer 20]⟩ =
      .error ⟨"Too many arguments: 1 unused renderer(s) provided. The template only has 2 '\x7b\x7d' placeholder(s)",
        ⟨⟨1, 20⟩, ⟨1, 21⟩⟩⟩ ∧
    Accepted template [renderer 14, renderer 17] ∧
    Refused "\x7b\x7d\x7d" [] (.template (.unescapedBrace 2)) fun literal => literal.span := by
  intro template written renderer
  have hwritten : Literal.string written.text = template := by decide +kernel
  have hread : Template.Token.read? template = .ok [.text "a", .renderer, .builtin .int, .renderer] := by decide +kernel
  have hbrace : Template.Token.read? "\x7b\x7d\x7d" = .error (.unescapedBrace 2) := by decide +kernel
  have hmissing : (ExpansionError.missingRenderer 2).message =
      "Renderer placeholder '\x7b\x7d' number 2 has no corresponding argument. " ++
        "Pass a renderer (e.g., |v: MyType| v.to_string()) or use a named placeholder (e.g., '\x7bint\x7d')" := by
    decide +kernel
  have hunused : (ExpansionError.unusedRenderers 1 2).message =
      "Too many arguments: 1 unused renderer(s) provided. The template only has 2 '\x7b\x7d' placeholder(s)" := by
    decide +kernel
  obtain ⟨-, hfew, -⟩ := (renderers_accounted template [renderer 14]).2.1 _ 2 hread rfl
  obtain ⟨-, -, hmany⟩ := (renderers_accounted template [renderer 14, renderer 17, renderer 20]).2.1 _ 2 hread rfl
  obtain ⟨hall, -, -⟩ := (renderers_accounted template [renderer 14, renderer 17]).2.1 _ 2 hread rfl
  refine ⟨hwritten, ?_, ?_, hall.2 rfl, (renderers_accounted _ []).1 _ hbrace⟩
  · rw [← hmissing]
    exact (hfew (by decide)).2 written hwritten
  · rw [← hunused]
    exact (hmany (by decide)).2 written hwritten

end TypedFormat.Source.SpecCall

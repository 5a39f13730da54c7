import TypedFormat.Proofs.Template.Gathering

/-!
# Why a template is refused

Reading a template has one outcome, and several things can be wrong at once. The length comes first, then a brace out of place,
wherever it stands. A template without these is made of pieces: its placeholders and the longest texts between them
(`MadeOf`), and the pieces are checked from left to right. A placeholder with an unknown name is reported if no more than
`maxTokens` pieces stand before it; otherwise, too many pieces are reported, always as one more than there may be.

The pieces are not accepted one by one as they are merged: a pending text becomes a token before the name after it is looked up,
and the placeholder only afterwards. `accept` has this order, so each outcome is one induction over it
(`accept_of_firstUnknown`, `accept_of_tooMany`, `exists_tokens`). `read?_outcome` puts them together.
-/

namespace TypedFormat.Template

open TypedFormat.Text

/-- The template is made of these pieces: written one after the other they are the template, no text is empty, no two texts
stand next to each other, and placeholders have names that they may have. -/
structure MadeOf (template : String) (ps : List Raw) : Prop where
  apart : Raw.Apart ps
  written : ps.flatMap Raw.written = template.toList

/-- The name is neither empty nor that of a built-in placeholder. -/
def UnknownName (name : List Char) : Prop := name ≠ [] ∧ ∀ b : Builtin, b.name.toList ≠ name

/-- The piece at `u` is the first placeholder whose name is unknown. -/
structure FirstUnknown (ps : List Raw) (u : Nat) (name : List Char) : Prop where
  here : ps[u]? = some (.placeholder name)
  unknown : UnknownName name
  before : ∀ j < u, ∀ other, ps[j]? = some (.placeholder other) → ¬UnknownName other

/-! ## Names -/

/-- A name that is unknown is refused as such. -/
theorem lookUp_of_unknown {name : List Char} (h : UnknownName name) :
    Gathered.lookUp name = .error (.unknownPlaceholder (String.ofList name)) := by
  have hempty : name.isEmpty = false := List.isEmpty_eq_false_iff.2 h.1
  have hnone : Builtin.ofName? (String.ofList name) = none := by
    cases hb : Builtin.ofName? (String.ofList name) with
    | none => rfl
    | some b =>
      have hname : b.name.toList = name := by rw [Builtin.name_of_ofName? hb, String.toList_ofList]
      exact absurd hname (h.2 b)
  unfold Gathered.lookUp
  rw [hempty, hnone]
  rfl

/-- A piece without an unknown name is that of a token. -/
theorem Raw.exists_token {a : Raw} (h : ∀ name, a = .placeholder name → ¬UnknownName name) :
    ∃ t : Token, a = t.piece := by
  cases a with
  | text run => exact ⟨.text (String.ofList run), by rw [Token.piece, String.toList_ofList]⟩
  | placeholder name =>
    by_cases hempty : name = []
    · subst hempty
      exact ⟨.renderer, rfl⟩
    · have hknown : ∃ b : Builtin, b.name.toList = name := by
        by_contra hnone
        exact h name rfl ⟨hempty, fun b hb => hnone ⟨b, hb⟩⟩
      obtain ⟨b, rfl⟩ := hknown
      exact ⟨.builtin b, rfl⟩

namespace FirstUnknown

variable {a : Raw} {ps : List Raw} {u : Nat} {name : List Char}

/-- A first piece with an unknown name is the first such piece. -/
theorem zero (h : UnknownName name) : FirstUnknown (.placeholder name :: ps) 0 name :=
  ⟨rfl, h, fun _ hj => absurd hj (Nat.not_lt_zero _)⟩

/-- After a first piece without an unknown name, the others decide. -/
theorem succ (ha : ∀ other, a = .placeholder other → ¬UnknownName other) (h : FirstUnknown ps u name) :
    FirstUnknown (a :: ps) (u + 1) name := by
  refine ⟨h.here, h.unknown, fun j hj other ho => ?_⟩
  cases j with
  | zero => exact ha other (Option.some.inj ho)
  | succ j => exact h.before j (by omega) other ho

/-- Before a piece with an unknown name further on, the first piece has none. -/
theorem tail (h : FirstUnknown (a :: ps) (u + 1) name) :
    (∀ other, a = .placeholder other → ¬UnknownName other) ∧ FirstUnknown ps u name := by
  refine ⟨fun other ho => h.before 0 (Nat.succ_pos u) other (congrArg some ho), h.here, h.unknown, fun j hj other ho => ?_⟩
  exact h.before (j + 1) (by omega) other ho

/-- There is one first piece with an unknown name. -/
theorem unique {v : Nat} {other : List Char} (h : FirstUnknown ps u name) (h' : FirstUnknown ps v other) : u = v := by
  rcases Nat.lt_trichotomy u v with hlt | heq | hgt
  · exact absurd h.unknown (h'.before u hlt name h.here)
  · exact heq
  · exact absurd h'.unknown (h.before v hgt other h'.here)

end FirstUnknown

/-! ## Pieces that are checked from left to right -/

/-- One more token is accepted while there may be more. -/
theorem accept_piece_cons {ts : List Token} (hlen : ts.length < maxTokens) (t : Token) (ps : List Raw) :
    accept ts (t.piece :: ps) = accept (ts ++ [t]) ps := by
  rw [accept, (Raw.token_eq_ok_iff t.piece t).2 rfl]
  simp only [bind, Except.bind, if_pos hlen]

/-- The first unknown name is reported if the pieces before it may all be tokens. -/
theorem accept_of_firstUnknown {ts : List Token} {ps : List Raw} {u : Nat} {name : List Char}
    (h : FirstUnknown ps u name) (hu : ts.length + u ≤ maxTokens) :
    accept ts ps = .error (.unknownPlaceholder (String.ofList name)) := by
  induction ps generalizing ts u with
  | nil => cases h.here
  | cons a ps ih =>
    cases u with
    | zero =>
      cases h.here
      have htoken : (Raw.placeholder name).token = .error (.unknownPlaceholder (String.ofList name)) :=
        lookUp_of_unknown h.unknown
      rw [accept, htoken]
      rfl
    | succ u =>
      obtain ⟨hknown, htail⟩ := h.tail
      obtain ⟨t, rfl⟩ := Raw.exists_token hknown
      rw [accept_piece_cons (by omega)]
      refine ih htail ?_
      rw [List.length_append, List.length_singleton]
      omega

/-- Too many pieces are reported as one more than there may be, unless an unknown name is met before. -/
theorem accept_of_tooMany {ts : List Token} {ps : List Raw} (hts : ts.length ≤ maxTokens)
    (hlen : maxTokens < ts.length + ps.length)
    (h : ∀ u name, FirstUnknown ps u name → maxTokens < ts.length + u) :
    accept ts ps = .error (.tooManyTokens (maxTokens + 1)) := by
  induction ps generalizing ts with
  | nil =>
    rw [List.length_nil] at hlen
    omega
  | cons a ps ih =>
    have hknown : ∀ name, a = .placeholder name → ¬UnknownName name := by
      rintro name rfl hname
      have hlt := h 0 name (.zero hname)
      omega
    obtain ⟨t, rfl⟩ := Raw.exists_token hknown
    rw [List.length_cons] at hlen
    by_cases hlt : ts.length < maxTokens
    · rw [accept_piece_cons hlt]
      have hone : (ts ++ [t]).length = ts.length + 1 := by rw [List.length_append, List.length_singleton]
      refine ih (by omega) (by omega) fun u name hu => ?_
      have hlater := h (u + 1) name (hu.succ hknown)
      omega
    · have hfull : ts.length = maxTokens := by omega
      rw [accept, (Raw.token_eq_ok_iff t.piece t).2 rfl]
      simp only [bind, Except.bind, if_neg hlt]
      rw [hfull]

/-- Pieces without an unknown name are those of tokens. -/
theorem exists_tokens {ps : List Raw} (h : ∀ u name, ¬FirstUnknown ps u name) :
    ∃ ts : List Token, ts.map Token.piece = ps := by
  induction ps with
  | nil => exact ⟨[], rfl⟩
  | cons a ps ih =>
    have hknown : ∀ name, a = .placeholder name → ¬UnknownName name := by
      rintro name rfl hname
      exact h 0 name (.zero hname)
    obtain ⟨t, rfl⟩ := Raw.exists_token hknown
    obtain ⟨ts, rfl⟩ := ih fun u name hu => h (u + 1) name (hu.succ hknown)
    exact ⟨t :: ts, rfl⟩

/-! ## The outcome -/

/-- Nothing is left of a template that is made of pieces, and they are its merged raw tokens. -/
theorem MadeOf.resume_eq {template : String} {ps : List Raw} (h : MadeOf template ps) :
    Raw.resume [] template.toList = (ps, []) := (Raw.resume_eq_iff _ _).2 ⟨h.apart, h.written⟩

/-- A template of which nothing is left is made of pieces, in one way. -/
theorem existsUnique_madeOf {template : String} (h : Raw.left template.toList = []) : ∃! ps, MadeOf template ps := by
  have hresume : Raw.resume [] template.toList = (Raw.merged [] (Raw.scan template.toList).1, []) := by
    rw [Raw.resume, h]
  obtain ⟨hapart, hwritten⟩ := (Raw.resume_eq_iff _ _).1 hresume
  exact ⟨_, ⟨hapart, hwritten⟩, fun ps hps => (Prod.mk.inj (hps.resume_eq.symm.trans hresume)).1⟩

/-- A template of a permitted length that is made of pieces has their tokens, where they are accepted. -/
theorem MadeOf.read?_eq {template : String} {ps : List Raw} (h : MadeOf template ps)
    (hlen : template.utf8ByteSize ≤ maxBytes) : Token.read? template = accept [] ps := by
  obtain ⟨hmerged, hleft⟩ := Prod.mk.inj h.resume_eq
  rw [read?_of_left_eq_nil hlen hleft, hmerged]

/-- The outcome of reading a template. A template that is too long is refused for its length, whatever else is wrong with it. A
shorter one that is not read to its end is refused for the brace where reading stopped, whatever stands before it. Any other is
made of pieces, in one way. The first placeholder among them with an unknown name is reported if at most `maxTokens` pieces stand
before it. Otherwise more pieces than `maxTokens` are reported as `maxTokens + 1` of them, however many there are, and without
either fault the tokens of the template are just those of its pieces. -/
theorem read?_outcome (template : String) :
    (maxBytes < template.utf8ByteSize → Token.read? template = .error (.tooLong template.utf8ByteSize)) ∧
    (template.utf8ByteSize ≤ maxBytes →
      (∃ raw rest, Raw.read template.toList = .ok (raw, rest) ∧
        (rest ≠ [] →
          (LoneClosing rest ∧ Token.read? template =
            .error (.unescapedBrace (template.utf8ByteSize - utf8Size rest))) ∨
          (LoneOpening rest ∧ Token.read? template =
            .error (.malformedPlaceholder (template.utf8ByteSize - utf8Size rest)))) ∧
        (rest = [] → ∃! ps, MadeOf template ps)) ∧
      ∀ ps, MadeOf template ps →
        (∀ u name, FirstUnknown ps u name → u ≤ maxTokens →
          Token.read? template = .error (.unknownPlaceholder (String.ofList name))) ∧
        ((∀ u name, FirstUnknown ps u name → maxTokens < u) →
          (maxTokens < ps.length → Token.read? template = .error (.tooManyTokens (maxTokens + 1))) ∧
          (ps.length ≤ maxTokens → ∃ ts, Token.read? template = .ok ts ∧ ts.map Token.piece = ps))) := by
  refine ⟨read?_of_maxBytes_lt, fun hlen => ⟨⟨_, Raw.left template.toList, Raw.read_eq_scan _, fun hne => ?_,
    existsUnique_madeOf⟩, fun ps hps => ⟨fun u name hu hle => ?_, fun hlate => ⟨fun hmany => ?_, fun hfew => ?_⟩⟩⟩⟩
  · have hoffset : template.utf8ByteSize - utf8Size (Raw.left template.toList) =
        (String.ofList (Raw.consumed template.toList)).utf8ByteSize := by
      rw [← utf8Size_sub_left, utf8Size_toList]
    rw [hoffset]
    exact read?_of_lone hlen hne
  · rw [hps.read?_eq hlen]
    exact accept_of_firstUnknown hu (by rwa [List.length_nil, Nat.zero_add])
  · rw [hps.read?_eq hlen]
    refine accept_of_tooMany (Nat.zero_le _) (by rwa [List.length_nil, Nat.zero_add]) fun u name hu => ?_
    rw [List.length_nil, Nat.zero_add]
    exact hlate u name hu
  · have hnone : ∀ u name, ¬FirstUnknown ps u name := by
      intro u name hu
      have hlt := (List.getElem?_eq_some_iff.1 hu.here).1
      have hover := hlate u name hu
      omega
    obtain ⟨ts, hts⟩ := exists_tokens hnone
    have hcount : ts.length ≤ maxTokens := by rwa [← List.length_map Token.piece, hts]
    refine ⟨ts, ?_, hts⟩
    rw [hps.read?_eq hlen]
    exact (accept_eq_ok_iff (Nat.zero_le _) _).2 ⟨ts, hts.symm, rfl, hcount⟩

/-! ### At the limit -/

/-- So many placeholders for renderers, and pieces after them. -/
def afterRenderers (n : Nat) (ps : List Raw) : List Raw := List.replicate n (.placeholder []) ++ ps

/-- Placeholders for renderers can stand before the pieces of any template. -/
theorem MadeOf.afterRenderers {template : String} {ps : List Raw} (h : MadeOf template ps) (n : Nat) :
    MadeOf (String.ofList ((List.replicate n ['{', '}']).flatten ++ template.toList)) (afterRenderers n ps) := by
  induction n with
  | zero => exact ⟨h.apart, by rw [String.toList_ofList]; exact h.written⟩
  | succ n ih =>
    refine ⟨.cons_placeholder (fun c hc => absurd hc List.not_mem_nil) ih.apart, ?_⟩
    have hw := ih.written
    rw [String.toList_ofList] at hw ⊢
    exact congrArg (['{', '}'] ++ ·) hw

/-- Placeholders for renderers put off the first unknown name by as many pieces. -/
theorem FirstUnknown.afterRenderers {ps : List Raw} {u : Nat} {name : List Char} (h : FirstUnknown ps u name) (n : Nat) :
    FirstUnknown (afterRenderers n ps) (u + n) name := by
  induction n with
  | zero => exact h
  | succ n ih => exact ih.succ fun other ho hother => hother.1 (Raw.placeholder.inj ho).symm

/-- After as many placeholders as there may be tokens an unknown name is still reported. With a text between them it is not,
since the text is one token too many. A brace out of place is reported before an unknown name that stands to its left. -/
theorem read?_outcome_limit :
    let full : List Char := (List.replicate maxTokens ['{', '}']).flatten
    Token.read? (String.ofList (full ++ "\x7bx\x7d".toList)) = .error (.unknownPlaceholder "x") ∧
    Token.read? (String.ofList (full ++ "a\x7bx\x7d".toList)) = .error (.tooManyTokens 257) ∧
    Token.read? "\x7bx\x7d\x7d" = .error (.unescapedBrace 3) := by
  intro full
  have hx : UnknownName ['x'] := ⟨List.cons_ne_nil _ _, fun b => by cases b <;> decide⟩
  have hapart : Raw.Apart [.placeholder ['x']] := .cons_placeholder (List.forall_mem_singleton.2 rfl) .nil
  have hname : MadeOf "\x7bx\x7d" [.placeholder ['x']] := ⟨hapart, by decide⟩
  have htext : MadeOf "a\x7bx\x7d" [.text ['a'], .placeholder ['x']] :=
    ⟨.cons_text (List.cons_ne_nil _ _) (fun b hb => by cases hb; rfl) hapart, by decide⟩
  refine ⟨?_, ?_, ?_⟩
  · obtain ⟨-, hmade⟩ := (read?_outcome (String.ofList (full ++ "\x7bx\x7d".toList))).2 (by decide +kernel)
    exact (hmade _ (hname.afterRenderers maxTokens)).1 maxTokens ['x'] ((FirstUnknown.zero hx).afterRenderers maxTokens)
      (Nat.le_refl _)
  · obtain ⟨-, hmade⟩ := (read?_outcome (String.ofList (full ++ "a\x7bx\x7d".toList))).2 (by decide +kernel)
    have hlate : FirstUnknown [.text ['a'], .placeholder ['x']] 1 ['x'] := (FirstUnknown.zero hx).succ nofun
    refine ((hmade _ (htext.afterRenderers maxTokens)).2 fun u name hu => ?_).1 ?_
    · rw [hu.unique (hlate.afterRenderers maxTokens)]
      decide
    · rw [afterRenderers, List.length_append, List.length_replicate]
      exact Nat.lt_add_of_pos_right (by decide)
  · obtain ⟨⟨raw, rest, hread, hbrace, -⟩, -⟩ := (read?_outcome "\x7bx\x7d\x7d").2 (by decide)
    have hscan : Raw.read "\x7bx\x7d\x7d".toList = .ok ([.placeholder ['x']], ['}']) := by decide +kernel
    cases hscan.symm.trans hread
    rcases hbrace (List.cons_ne_nil _ _) with ⟨-, he⟩ | ⟨hopen, -⟩
    · exact he
    · exact absurd hopen (LoneClosing.not_loneOpening ⟨[], rfl, nofun⟩)

end TypedFormat.Template

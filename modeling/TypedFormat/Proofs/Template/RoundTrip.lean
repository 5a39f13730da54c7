import TypedFormat.Proofs.Template.Gathering

/-!
# Reading and writing templates

`unparse` writes tokens as a template, and `Token.read?` reads them back. A template decides where its texts are cut, so
tokens come back only if they are in normal form: no text is empty, no two texts stand next to each other, and there are not
too many tokens. On these, reading and writing are inverse to each other (`read?_eq_ok_iff_normal`): a template has one
list of tokens, and tokens in normal form have one template.
-/

namespace TypedFormat.Template

open TypedFormat.Text

namespace Token

/-- The token is a text. -/
def isText : Token → Bool
  | .text _ => true
  | .builtin _ => false
  | .renderer => false

theorem isText_piece (t : Token) : t.piece.isText = t.isText := by
  cases t <;> rfl

/-- The names of the built-in placeholders are names that a placeholder may have. -/
theorem all_isNameChar_name (b : Builtin) : b.name.toList.all isNameChar = true := by
  cases b <;> rfl

/-- A token that is a placeholder has a name that a placeholder may have. -/
theorem named_of_piece {t : Token} {name : List Char} (h : t.piece = .placeholder name) :
    ∀ c ∈ name, isNameChar c = true := by
  cases t with
  | text t => cases h
  | builtin b =>
    cases h
    exact List.all_eq_true.1 (all_isNameChar_name b)
  | renderer =>
    cases h
    exact fun c hc => absurd hc List.not_mem_nil

/-- Only the empty text is an empty piece. -/
theorem piece_eq_text_nil_iff (t : Token) : t.piece = .text [] ↔ t = .text "" := by
  constructor
  · intro h
    cases t with
    | text t => rw [String.toList_eq_nil_iff.1 (Raw.text.inj h)]
    | builtin b => cases h
    | renderer => cases h
  · rintro rfl
    rfl

end Token

/-- Tokens in normal form. -/
structure Normal (ts : List Token) : Prop where
  /-- No text is empty. -/
  nonempty : .text "" ∉ ts
  /-- No two texts stand next to each other. -/
  apart : ts.IsChain fun a b => ¬(a.isText = true ∧ b.isText = true)
  /-- A template may have that many tokens. -/
  few : ts.length ≤ maxTokens

/-- Tokens are in normal form where their pieces stand apart and are not too many. -/
theorem normal_iff (ts : List Token) : Normal ts ↔ Raw.Apart (ts.map Token.piece) ∧ ts.length ≤ maxTokens := by
  have hempty : .text [] ∈ ts.map Token.piece ↔ .text "" ∈ ts := by
    rw [List.mem_map]
    constructor
    · rintro ⟨t, ht, he⟩
      exact (t.piece_eq_text_nil_iff.1 he) ▸ ht
    · intro h
      exact ⟨_, h, rfl⟩
  have hchain : ((ts.map Token.piece).IsChain fun a b => ¬(a.isText = true ∧ b.isText = true)) ↔
      ts.IsChain fun a b => ¬(a.isText = true ∧ b.isText = true) := by
    simp only [List.isChain_map, Token.isText_piece]
  have hnamed : ∀ name, .placeholder name ∈ ts.map Token.piece → ∀ c ∈ name, isNameChar c = true := by
    intro name h
    obtain ⟨t, -, ht⟩ := List.mem_map.1 h
    exact Token.named_of_piece ht
  constructor
  · intro h
    exact ⟨⟨fun he => h.nonempty (hempty.1 he), hchain.2 h.apart, hnamed⟩, h.few⟩
  · rintro ⟨h, hfew⟩
    exact ⟨fun he => h.nonempty (hempty.2 he), hchain.1 h.chain, hfew⟩

/-- The characters of the template that tokens are written as. -/
theorem toList_unparse (ts : List Token) : (unparse ts).toList = (ts.map Token.piece).flatMap Raw.written := by
  rw [unparse, String.toList_ofList, flatMap_written_piece]

/-- Reading a template and writing tokens are inverse to each other. The tokens read are in normal form and are written as
that very template; and tokens in normal form are read back from the template that they are written as, unless it is too
long. -/
theorem read?_eq_ok_iff_normal (template : String) (ts : List Token) :
    Token.read? template = .ok ts ↔
      Normal ts ∧ unparse ts = template ∧ template.utf8ByteSize ≤ maxBytes := by
  have hwritten : unparse ts = template ↔ (ts.map Token.piece).flatMap Raw.written = template.toList := by
    rw [← toList_unparse, String.toList_inj]
  rw [read?_eq_ok_iff_pieces, Raw.resume_eq_iff, normal_iff, hwritten]
  constructor
  · rintro ⟨hlen, ⟨hapart, hw⟩, hfew⟩
    exact ⟨⟨hapart, hfew⟩, hw, hlen⟩
  · rintro ⟨⟨hapart, hfew⟩, hw, hlen⟩
    exact ⟨hlen, ⟨hapart, hw⟩, hfew⟩

/-- A doubled brace in front of a placeholder, and one after it. -/
example : Token.read? "\x7b\x7b\x7bint\x7d\x7d\x7d" = .ok [.text "\x7b", .builtin .int, .text "\x7d"] := by decide +kernel

end TypedFormat.Template

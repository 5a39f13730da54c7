import TypedFormat.Proofs.Template.RoundTrip

/-!
# Where two templates meet

A template is read up to its end whatever comes after it, and what comes after it is read as if it stood alone. So the tokens of
two templates one after the other are those of both; only a text that ends the first and a text that starts the second
become one (`read?_append`). A brace that is out of place in the second template is out of place in both together, and is
reported as many bytes later as the first has (`read?_append_of_braceFault`).

`Junction` lists the two cases that there are where tokens meet.
-/

namespace TypedFormat.Template

open TypedFormat.Text

/-- The tokens of two templates one after the other. A text that ends the first and a text that starts the second are one. -/
def joined (ts us : List Token) : List Token :=
  match ts.getLast?, us with
  | some (.text s), .text t :: back => ts.dropLast ++ .text (s ++ t) :: back
  | _, _ => ts ++ us

/-- How tokens meet. -/
inductive Junction : List Token → List Token → List Token → Prop where
  /-- Two texts meet and become one. -/
  | texts (front : List Token) (s t : String) (back : List Token) :
      Junction (front ++ [.text s]) (.text t :: back) (front ++ .text (s ++ t) :: back)
  /-- Otherwise nothing changes. -/
  | apart {ts us : List Token} :
      (∀ a ∈ ts.getLast?, ∀ b ∈ us.head?, ¬(a.isText = true ∧ b.isText = true)) → Junction ts us (ts ++ us)

/-- Joined tokens meet in one of the two ways. -/
theorem junction_joined (ts us : List Token) : Junction ts us (joined ts us) := by
  unfold joined
  split
  · next s t back hlast =>
    obtain ⟨front, rfl⟩ := List.getLast?_eq_some_iff.1 hlast
    rw [List.dropLast_concat]
    exact .texts front s t back
  · next hne =>
    refine .apart fun a ha b hb => ?_
    rintro ⟨hta, htb⟩
    obtain ⟨back, rfl⟩ := List.head?_eq_some_iff.1 hb
    cases a with
    | text s =>
      cases b with
      | text t => exact hne s t back ha rfl
      | builtin kind => cases htb
      | renderer => cases htb
    | builtin kind => cases hta
    | renderer => cases hta

/-! ## Tokens that meet -/

namespace Junction

variable {ts us vs : List Token}

/-- Tokens that meet are written one after the other. -/
theorem written (h : Junction ts us vs) :
    vs.flatMap Token.written = ts.flatMap Token.written ++ us.flatMap Token.written := by
  cases h with
  | texts front s t back =>
    have hd : Token.written (.text (s ++ t)) = Token.written (.text s) ++ Token.written (.text t) := by
      rw [Token.written, String.toList_append, Raw.doubled_append]
      rfl
    rw [List.flatMap_append, List.flatMap_append, List.flatMap_singleton, List.flatMap_cons, List.flatMap_cons, hd,
      List.append_assoc, List.append_assoc]
  | apart h => exact List.flatMap_append

/-- Tokens in normal form meet in normal form, if they are not too many. -/
theorem normal (h : Junction ts us vs) (hts : Normal ts) (hus : Normal us) (hlen : vs.length ≤ maxTokens) : Normal vs := by
  cases h with
  | texts front s t back =>
    obtain ⟨hfront, hlast, hmeet⟩ := List.isChain_append.1 hts.apart
    refine ⟨fun hmem => ?_, List.isChain_append.2 ⟨hfront, ?_, ?_⟩, hlen⟩
    · rcases List.mem_append.1 hmem with hmem | hmem
      · exact hts.nonempty (List.mem_append_left _ hmem)
      · rcases List.mem_cons.1 hmem with he | hmem
        · have hs : s = "" := (String.append_eq_empty_iff.1 (Token.text.inj he).symm).1
          exact hts.nonempty (hs ▸ List.mem_append_right front List.mem_cons_self)
        · exact hus.nonempty (List.mem_cons_of_mem _ hmem)
    · exact hus.apart.tail.cons fun b hb => hus.apart.rel_head? hb
    · -- A merged text meets what is before it as the first text alone did.
      intro a ha b hb
      cases hb
      exact hmeet a ha (.text s) rfl
  | apart h =>
    refine ⟨fun hmem => ?_, List.isChain_append.2 ⟨hts.apart, hus.apart, h⟩, hlen⟩
    rcases List.mem_append.1 hmem with hmem | hmem
    · exact hts.nonempty hmem
    · exact hus.nonempty hmem

end Junction

/-! ## Reading on after a template -/

/-- The tokens of a template are in normal form and are written as the template. -/
theorem normal_of_read? {template : String} {ts : List Token} (h : Token.read? template = .ok ts) :
    Normal ts ∧ ts.flatMap Token.written = template.toList := by
  obtain ⟨-, hresume, hfew⟩ := (read?_eq_ok_iff_pieces template ts).1 h
  obtain ⟨hapart, hwritten⟩ := (Raw.resume_eq_iff _ _).1 hresume
  exact ⟨(normal_iff ts).2 ⟨hapart, hfew⟩, by rw [← flatMap_written_piece, hwritten]⟩

/-- Two templates one after the other have the tokens of both, joined. -/
theorem read?_append {t u : String} {ts us : List Token} (ht : Token.read? t = .ok ts) (hu : Token.read? u = .ok us)
    (hbytes : (t ++ u).utf8ByteSize ≤ maxBytes) (hfew : (joined ts us).length ≤ maxTokens) :
    Token.read? (t ++ u) = .ok (joined ts us) := by
  obtain ⟨hts, htw⟩ := normal_of_read? ht
  obtain ⟨hus, huw⟩ := normal_of_read? hu
  have hmeet := junction_joined ts us
  obtain ⟨hapart, -⟩ := (normal_iff _).1 (hmeet.normal hts hus hfew)
  refine (read?_eq_ok_iff_pieces _ _).2 ⟨hbytes, (Raw.resume_eq_iff _ _).2 ⟨hapart, ?_⟩, hfew⟩
  rw [flatMap_written_piece, hmeet.written, htw, huw, String.toList_append]

/-! ## Braces out of place -/

/-- The errors about a brace out of place, by the byte where it stands. -/
def BraceFault (kind : Nat → TemplateError) : Prop := kind = .unescapedBrace ∨ kind = .malformedPlaceholder

/-- A piece without a token is a placeholder with an unknown name. -/
theorem Raw.token_eq_error {a : Raw} {e : TemplateError} (h : a.token = .error e) :
    ∃ name, e = .unknownPlaceholder name := by
  cases a with
  | text run => cases h
  | placeholder name =>
    change Gathered.lookUp name = .error e at h
    unfold Gathered.lookUp at h
    split at h
    · cases h
    · split at h
      · cases h
      · cases h
        exact ⟨_, rfl⟩

/-- Pieces are refused for an unknown name or for being too many, and for nothing else. -/
theorem accept_eq_error {ts : List Token} {ps : List Raw} {e : TemplateError} (h : accept ts ps = .error e) :
    (∃ name, e = .unknownPlaceholder name) ∨ ∃ count, e = .tooManyTokens count := by
  induction ps generalizing ts with
  | nil => cases h
  | cons a ps ih =>
    rw [accept] at h
    cases ha : a.token with
    | ok t =>
      rw [ha] at h
      by_cases hlen : ts.length < maxTokens
      · simp only [bind, Except.bind, if_pos hlen] at h
        exact ih h
      · simp only [bind, Except.bind, if_neg hlen] at h
        cases h
        exact Or.inr ⟨_, rfl⟩
    | error d =>
      rw [ha] at h
      cases h
      exact Or.inl (Raw.token_eq_error ha)

/-- A brace is reported as out of place where reading stopped before the end. -/
theorem braceError_of_read? {kind : Nat → TemplateError} (hk : BraceFault kind) {template : String} {o : Nat}
    (h : Token.read? template = .error (kind o)) :
    Raw.left template.toList ≠ [] ∧ braceError template.toList (Raw.left template.toList) = kind o := by
  by_cases hlen : template.utf8ByteSize ≤ maxBytes
  · by_cases hleft : Raw.left template.toList = []
    · rw [read?_of_left_eq_nil hlen hleft] at h
      rcases hk with rfl | rfl <;> rcases accept_eq_error h with ⟨name, he⟩ | ⟨count, he⟩ <;> cases he
    · rw [read?_of_left_ne_nil hlen hleft] at h
      exact ⟨hleft, Except.error.inj h⟩
  · rw [read?_of_maxBytes_lt (Nat.lt_of_not_le hlen)] at h
    rcases hk with rfl | rfl <;> cases h

/-- With characters in front, a brace out of place is so many bytes later. -/
theorem braceError_append {kind : Nat → TemplateError} (hk : BraceFault kind) {cs rest : List Char} {o : Nat}
    (hrest : utf8Size rest ≤ utf8Size cs) (h : braceError cs rest = kind o) (front : List Char) :
    braceError (front ++ cs) rest = kind (utf8Size front + o) := by
  have hoffset : utf8Size (front ++ cs) - utf8Size rest = utf8Size front + (utf8Size cs - utf8Size rest) := by
    rw [utf8Size_append]
    omega
  unfold braceError at h ⊢
  simp only [hoffset]
  split at h <;> rcases hk with rfl | rfl <;> cases h <;> rfl

/-- A brace that is out of place in a template is so after another template, as many bytes later as this one has. -/
theorem read?_append_of_braceFault {kind : Nat → TemplateError} (hk : BraceFault kind) {t u : String} {ts : List Token}
    {o : Nat} (ht : Token.read? t = .ok ts) (hu : Token.read? u = .error (kind o))
    (hbytes : (t ++ u).utf8ByteSize ≤ maxBytes) : Token.read? (t ++ u) = .error (kind (t.utf8ByteSize + o)) := by
  obtain ⟨-, hresume, -⟩ := (read?_eq_ok_iff_pieces t ts).1 ht
  have hderived : IsTemplate t.toList := (Raw.left_eq_nil_iff _).1 (Prod.mk.inj hresume).2
  have hleft : Raw.left (t ++ u).toList = Raw.left u.toList := by
    rw [String.toList_append, Raw.left_append hderived]
  have hrest : utf8Size (Raw.left u.toList) ≤ utf8Size u.toList := by
    have hsplit := congrArg utf8Size (Raw.consumed_append_left u.toList)
    rw [utf8Size_append] at hsplit
    omega
  obtain ⟨hne, herror⟩ := braceError_of_read? hk hu
  rw [read?_of_left_ne_nil hbytes (hleft ▸ hne), hleft, String.toList_append, braceError_append hk hrest herror,
    utf8Size_toList]

end TypedFormat.Template

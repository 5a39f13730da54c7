import TypedFormat.Proofs.Template.Merging
import TypedFormat.Template.Reading

/-!
# Gathering tokens

The tokens of a template are gathered from raw tokens in one pass: neighbouring texts are merged, names are looked up and
tokens are counted. Here the pass is taken apart: `Raw.merged` merges first, and `accept` then looks up and counts piece by
piece (`Gathered.all_eq_accept`). A piece and its token determine each other (`Raw.token_eq_ok_iff`), so reading a template
succeeds just where its pieces are those of tokens that are few enough (`read?_eq_ok_iff_pieces`).
-/

namespace TypedFormat.Template

open TypedFormat.Text

namespace Token

/-- The piece of a template that the token is read from. -/
def piece : Token → Raw
  | .text t => .text t.toList
  | .builtin b => .placeholder b.name.toList
  | .renderer => .placeholder []

/-- A token is written like its piece. -/
theorem written_piece (t : Token) : t.piece.written = t.written := by
  cases t with
  | text t => rfl
  | builtin b => cases b <;> rfl
  | renderer => rfl

end Token

/-- Tokens are written like their pieces. -/
theorem flatMap_written_piece (ts : List Token) : (ts.map Token.piece).flatMap Raw.written = ts.flatMap Token.written := by
  rw [List.flatMap_map]
  exact List.flatMap_congr fun t _ => t.written_piece

namespace Raw

/-- The token of a piece. -/
def token : Raw → Except TemplateError Token
  | .text run => .ok (.text (String.ofList run))
  | .placeholder name => Gathered.lookUp name

/-- A piece has the token that it is the piece of, and no other. -/
theorem token_eq_ok_iff (a : Raw) (t : Token) : a.token = .ok t ↔ a = t.piece := by
  constructor
  · intro h
    cases a with
    | text run =>
      cases h
      rw [Token.piece, String.toList_ofList]
    | placeholder name =>
      change Gathered.lookUp name = .ok t at h
      unfold Gathered.lookUp at h
      split at h
      · next he =>
        cases h
        rw [Token.piece, List.isEmpty_iff.1 he]
      · split at h
        · next b hb =>
          cases h
          rw [Token.piece, Builtin.name_of_ofName? hb, String.toList_ofList]
        · cases h
  · rintro rfl
    cases t with
    | text t => rw [Token.piece, token, String.ofList_toList]
    | builtin b => cases b <;> rfl
    | renderer => rfl

end Raw

/-! ## The pass, piece by piece -/

/-- More tokens after those gathered, one for each piece, as long as the template may have them. -/
def accept (ts : List Token) : List Raw → Except TemplateError (List Token)
  | [] => .ok ts
  | a :: ps => do
    let t ← a.token
    if ts.length < maxTokens then accept (ts ++ [t]) ps else .error (.tooManyTokens (ts.length + 1))

/-- Pieces are accepted one after the other. -/
theorem accept_append (ts : List Token) (ps qs : List Raw) : accept ts (ps ++ qs) = accept ts ps >>= (accept · qs) := by
  induction ps generalizing ts with
  | nil => rfl
  | cons a ps ih =>
    rw [List.cons_append, accept, accept]
    cases a.token with
    | error e => rfl
    | ok t =>
      by_cases hlen : ts.length < maxTokens
      · simp only [bind, Except.bind, if_pos hlen]
        exact ih _
      · simp only [bind, Except.bind, if_neg hlen]

/-- What is accepted are the tokens of the pieces, and they are not more than a template may have. -/
theorem accept_eq_ok_iff {ts us : List Token} (hlen : ts.length ≤ maxTokens) (ps : List Raw) :
    accept ts ps = .ok us ↔ ∃ vs, ps = vs.map Token.piece ∧ us = ts ++ vs ∧ us.length ≤ maxTokens := by
  induction ps generalizing ts with
  | nil =>
    constructor
    · intro h
      cases h
      exact ⟨[], rfl, (List.append_nil _).symm, hlen⟩
    · rintro ⟨vs, hvs, rfl, -⟩
      rw [List.map_eq_nil_iff.1 hvs.symm, List.append_nil]
      rfl
  | cons a ps ih =>
    rw [accept, bind_eq_ok_iff]
    constructor
    · rintro ⟨t, ht, h⟩
      split at h
      · next hlt =>
        have hle : (ts ++ [t]).length ≤ maxTokens := by rw [List.length_append]; exact hlt
        obtain ⟨vs, rfl, rfl, hus⟩ := (ih hle).1 h
        exact ⟨t :: vs, by rw [List.map_cons, (Raw.token_eq_ok_iff a t).1 ht], List.append_assoc _ _ _, hus⟩
      · cases h
    · rintro ⟨vs, hvs, rfl, hus⟩
      cases vs with
      | nil => cases hvs
      | cons t vs =>
        obtain ⟨rfl, rfl⟩ := List.cons.inj hvs
        have hlt : ts.length < maxTokens := by
          rw [List.length_append, List.length_cons] at hus
          omega
        have hle : (ts ++ [t]).length ≤ maxTokens := by rw [List.length_append]; exact hlt
        refine ⟨t, (Raw.token_eq_ok_iff _ t).2 rfl, ?_⟩
        rw [if_pos hlt]
        exact (ih hle).2 ⟨vs, rfl, List.append_cons _ _ _, hus⟩

namespace Gathered

/-- One more token is accepted where its piece is. -/
theorem push_eq_accept (g : Gathered) (t : Token) :
    g.push t = (accept g.tokens [t.piece]).map fun ts => ⟨ts, g.pending⟩ := by
  rw [push, accept, (Raw.token_eq_ok_iff _ t).2 rfl]
  by_cases hlen : g.tokens.length < maxTokens
  · simp only [bind, Except.bind, if_pos hlen]
    rfl
  · simp only [bind, Except.bind, if_neg hlen]
    rfl

/-- The pending text is accepted as the piece that it becomes. -/
theorem flush_eq_accept (g : Gathered) :
    g.flush = (accept g.tokens (Raw.flushed g.pending)).map fun ts => ⟨ts, []⟩ := by
  rcases g with ⟨ts, pending⟩
  cases pending with
  | nil => rfl
  | cons c cs =>
    have hpiece : (Token.text (String.ofList (c :: cs))).piece = .text (c :: cs) := by
      rw [Token.piece, String.toList_ofList]
    rw [Raw.flushed_of_ne_nil (List.cons_ne_nil c cs), ← hpiece]
    exact push_eq_accept ⟨ts, []⟩ _

/-- A placeholder is accepted after the pending text. -/
theorem add_placeholder_eq_accept (g : Gathered) (name : List Char) :
    g.add (.placeholder name) =
      (accept g.tokens (Raw.flushed g.pending ++ [.placeholder name])).map fun ts => ⟨ts, []⟩ := by
  rw [add, flush_eq_accept, accept_append]
  cases accept g.tokens (Raw.flushed g.pending) with
  | error e => rfl
  | ok ts =>
    cases hname : lookUp name with
    | error e =>
      simp only [accept, Raw.token, hname, bind, Except.bind, Except.map]
    | ok t =>
      have hpiece : Raw.placeholder name = t.piece := (Raw.token_eq_ok_iff (.placeholder name) t).1 hname
      simp only [bind, Except.bind, Except.map]
      rw [hpiece]
      exact push_eq_accept ⟨ts, []⟩ t

/-- Gathering raw tokens after a pending text accepts the pieces that they merge into. -/
theorem foldlM_add_eq_accept (raw : List Raw) (g : Gathered) :
    (raw.foldlM add g >>= flush) = (accept g.tokens (Raw.merged g.pending raw)).map fun ts => ⟨ts, []⟩ := by
  induction raw generalizing g with
  | nil => exact flush_eq_accept g
  | cons a raw ih =>
    cases a with
    | text run => exact ih ⟨g.tokens, g.pending ++ run⟩
    | placeholder name =>
      have hsplit : Raw.flushed g.pending ++ .placeholder name :: Raw.merged [] raw =
          (Raw.flushed g.pending ++ [.placeholder name]) ++ Raw.merged [] raw := by
        rw [List.append_assoc]
        rfl
      rw [List.foldlM_cons, add_placeholder_eq_accept, Raw.merged, hsplit, accept_append _ (_ ++ _)]
      cases accept g.tokens (Raw.flushed g.pending ++ [.placeholder name]) with
      | error e => rfl
      | ok ts => exact ih ⟨ts, []⟩

/-- Gathering the tokens is merging and then accepting the pieces. -/
theorem all_eq_accept (raw : List Raw) : all raw = accept [] (Raw.merged [] raw) := by
  have h := foldlM_add_eq_accept raw {}
  have hall : all raw = (raw.foldlM add {} >>= flush).map Gathered.tokens := by
    rw [all]
    cases raw.foldlM add {} with
    | error e => rfl
    | ok g =>
      simp only [bind, Except.bind]
      cases g.flush <;> rfl
  rw [hall, h]
  cases accept [] (Raw.merged [] raw) <;> rfl

end Gathered

/-! ## The whole template -/

/-- A template that is too long is refused as such. -/
theorem read?_of_maxBytes_lt {template : String} (hlen : maxBytes < template.utf8ByteSize) :
    Token.read? template = .error (.tooLong template.utf8ByteSize) := by
  rw [Token.read?, if_pos hlen]

/-- A template of a permitted length that is read to the end has the tokens of its pieces, where they are accepted. -/
theorem read?_of_left_eq_nil {template : String} (hlen : template.utf8ByteSize ≤ maxBytes)
    (h : Raw.left template.toList = []) :
    Token.read? template = accept [] (Raw.merged [] (Raw.scan template.toList).1) := by
  have hempty : (Raw.scan template.toList).2.isEmpty = true := List.isEmpty_iff.2 h
  unfold Token.read?
  rw [if_neg (Nat.not_lt.2 hlen), Raw.read_eq_scan]
  simp only [hempty]
  exact Gathered.all_eq_accept _

/-- The tokens of a template are those of its pieces: the template is not too long, all of it is read, and the pieces that it is
read into are those of the tokens, which are not too many. -/
theorem read?_eq_ok_iff_pieces (template : String) (ts : List Token) :
    Token.read? template = .ok ts ↔
      template.utf8ByteSize ≤ maxBytes ∧ Raw.resume [] template.toList = (ts.map Token.piece, []) ∧
        ts.length ≤ maxTokens := by
  by_cases hlen : template.utf8ByteSize ≤ maxBytes
  · by_cases hleft : Raw.left template.toList = []
    · rw [read?_of_left_eq_nil hlen hleft, accept_eq_ok_iff (Nat.zero_le _), Raw.resume, hleft]
      constructor
      · rintro ⟨vs, hps, rfl, hvs⟩
        exact ⟨hlen, by rw [hps], hvs⟩
      · rintro ⟨-, hps, hts⟩
        exact ⟨ts, (Prod.mk.inj hps).1, rfl, hts⟩
    · rw [read?_of_left_ne_nil hlen hleft]
      constructor
      · intro h
        cases h
      · rintro ⟨-, hps, -⟩
        exact absurd (Prod.mk.inj hps).2 hleft
  · rw [read?_of_maxBytes_lt (Nat.lt_of_not_le hlen)]
    constructor
    · intro h
      cases h
    · rintro ⟨h, -⟩
      exact absurd h hlen

end TypedFormat.Template

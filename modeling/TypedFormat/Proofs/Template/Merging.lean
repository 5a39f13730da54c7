import Mathlib.Data.List.Chain
import TypedFormat.Proofs.Template.Grammar

/-!
# Merging texts

`Raw.merged` merges neighbouring texts among raw tokens. Merging goes hand in hand with reading: `Raw.resume` reads characters
after a text that is still pending, and each kind of token in front of the characters has one law. So a text with its braces
doubled joins the pending text, whatever raw tokens it falls into (`Raw.resume_doubled`), and a placeholder ends it.

Merged pieces stand apart (`Raw.apart_merged`) and are written like the raw tokens (`Raw.written_merged`). The other way round,
pieces that stand apart are read back as they are (`Raw.resume_written`). So characters and pieces that stand apart determine
each other (`Raw.resume_eq_iff`).
-/

namespace TypedFormat.Template

open TypedFormat.Text

namespace Raw

/-- The pending text as a piece of its own, unless it is empty. -/
def flushed (pending : List Char) : List Raw := if pending = [] then [] else [.text pending]

/-- The raw tokens after a pending text, with neighbouring texts merged and empty ones dropped. -/
def merged : (pending : List Char) → List Raw → List Raw
  | pending, [] => flushed pending
  | pending, .text run :: raw => merged (pending ++ run) raw
  | pending, .placeholder name :: raw => flushed pending ++ .placeholder name :: merged [] raw

/-- The pieces of characters that are read after a pending text, and what is left. -/
def resume (pending cs : List Char) : List Raw × List Char := (merged pending (scan cs).1, left cs)

@[simp] theorem flushed_nil : flushed [] = [] := rfl

theorem flushed_of_ne_nil {pending : List Char} (h : pending ≠ []) : flushed pending = [.text pending] := if_neg h

/-! ## Reading after a pending text -/

theorem resume_nil (pending : List Char) : resume pending [] = (flushed pending, []) := by
  rw [resume, left, scan_of_none one_nil]
  rfl

/-- A text that is read joins the pending text. -/
theorem resume_of_text {cs run rest : List Char} (h : one cs = some (.text run, rest)) (pending : List Char) :
    resume pending cs = resume (pending ++ run) rest := by
  rw [resume, left_of_one h, scan_of_some h]
  rfl

/-- A plain character joins the pending text, also when it is read as a part of a longer run. -/
theorem resume_plain {c : Char} (hc : isPlainChar c = true) (pending cs : List Char) :
    resume pending (c :: cs) = resume (pending ++ [c]) cs := by
  rw [resume_of_text (one_plain hc cs)]
  cases cs with
  | nil => rfl
  | cons d cs =>
    by_cases hd : isPlainChar d = true
    · rw [resume_of_text (one_plain hd cs), List.takeWhile_cons_of_pos hd, List.dropWhile_cons_of_pos hd,
        List.append_assoc]
      rfl
    · rw [List.takeWhile_cons_of_neg hd, List.dropWhile_cons_of_neg hd]

/-- A text with its braces doubled joins the pending text. -/
theorem resume_doubled (text : List Char) (pending cs : List Char) :
    resume pending (doubled text ++ cs) = resume (pending ++ text) cs := by
  induction text generalizing pending with
  | nil => rw [doubled, List.nil_append, List.append_nil]
  | cons c text ih =>
    have hone : resume pending (doubled (c :: text) ++ cs) = resume (pending ++ [c]) (doubled text ++ cs) := by
      by_cases ho : c = '{'
      · subst ho
        exact resume_of_text (one_opening _) pending
      · by_cases hc : c = '}'
        · subst hc
          exact resume_of_text (one_closing _) pending
        · have hplain : isPlainChar c = true := by simp [isPlainChar, ho, hc]
          rw [doubled, if_neg (not_or.2 ⟨ho, hc⟩)]
          exact resume_plain hplain pending _
    rw [hone, ih, List.append_assoc]
    rfl

/-- A placeholder ends the pending text. -/
theorem resume_placeholder {name : List Char} (h : ∀ c ∈ name, isNameChar c = true) (pending cs : List Char) :
    resume pending (written (.placeholder name) ++ cs) =
      (flushed pending ++ .placeholder name :: (resume [] cs).1, (resume [] cs).2) := by
  have ho : one (written (.placeholder name) ++ cs) = some (.placeholder name, cs) := by
    rw [written, List.cons_append, List.append_assoc]
    exact one_placeholder h cs
  rw [resume, left_of_one ho, scan_of_some ho]
  rfl

/-! ## What merging keeps and what it brings about -/

/-- The braces of a text are doubled one by one. -/
theorem doubled_append (s t : List Char) : doubled (s ++ t) = doubled s ++ doubled t := by
  induction s with
  | nil => rfl
  | cons c s ih =>
    by_cases hc : c = '{' ∨ c = '}'
    · rw [List.cons_append, doubled, doubled, if_pos hc, if_pos hc, ih]
      rfl
    · rw [List.cons_append, doubled, doubled, if_neg hc, if_neg hc, ih]
      rfl

/-- A pending text is written like the piece that it becomes. -/
theorem written_flushed (pending : List Char) : (flushed pending).flatMap written = doubled pending := by
  by_cases h : pending = []
  · subst h
    rfl
  · rw [flushed_of_ne_nil h]
    exact List.append_nil _

/-- Merging does not change what is written. -/
theorem written_merged (pending : List Char) (raw : List Raw) :
    (merged pending raw).flatMap written = doubled pending ++ raw.flatMap written := by
  induction raw generalizing pending with
  | nil => rw [merged, written_flushed, List.flatMap_nil, List.append_nil]
  | cons a raw ih =>
    cases a with
    | text run => rw [merged, ih, doubled_append, List.append_assoc, List.flatMap_cons]; rfl
    | placeholder name =>
      rw [merged, List.flatMap_append, written_flushed, List.flatMap_cons, ih, List.flatMap_cons]
      rfl

/-- The raw token is a text. -/
def isText : Raw → Bool
  | text _ => true
  | placeholder _ => false

/-- Pieces with no empty text, no two texts next to each other, and placeholders that have names. -/
structure Apart (ps : List Raw) : Prop where
  nonempty : .text [] ∉ ps
  chain : ps.IsChain fun a b => ¬(a.isText = true ∧ b.isText = true)
  named : ∀ name, .placeholder name ∈ ps → ∀ c ∈ name, isNameChar c = true

theorem Apart.nil : Apart [] := ⟨List.not_mem_nil, .nil, fun _ h => absurd h List.not_mem_nil⟩

/-- A placeholder can stand before anything. -/
theorem Apart.cons_placeholder {name : List Char} {ps : List Raw} (hname : ∀ c ∈ name, isNameChar c = true)
    (h : Apart ps) : Apart (.placeholder name :: ps) := by
  refine ⟨fun hm => ?_, h.chain.cons fun b _ => fun hb => Bool.noConfusion hb.1, fun n hn => ?_⟩
  · rcases List.mem_cons.1 hm with he | hm
    · cases he
    · exact h.nonempty hm
  · rcases List.mem_cons.1 hn with he | hn
    · cases he
      exact hname
    · exact h.named n hn

/-- A text that is not empty can stand before anything but a text. -/
theorem Apart.cons_text {run : List Char} {ps : List Raw} (hrun : run ≠ [])
    (hhead : ∀ b ∈ ps.head?, b.isText = false) (h : Apart ps) : Apart (.text run :: ps) := by
  refine ⟨fun hm => ?_, h.chain.cons fun b hb ht => ?_, fun n hn => ?_⟩
  · rcases List.mem_cons.1 hm with he | hm
    · exact hrun (Raw.text.inj he).symm
    · exact h.nonempty hm
  · rw [hhead b hb] at ht
    exact Bool.noConfusion ht.2
  · rcases List.mem_cons.1 hn with he | hn
    · cases he
    · exact h.named n hn

/-- Merged raw tokens stand apart. -/
theorem apart_merged (pending : List Char) (raw : List Raw)
    (hnamed : ∀ name, .placeholder name ∈ raw → ∀ c ∈ name, isNameChar c = true) : Apart (merged pending raw) := by
  induction raw generalizing pending with
  | nil =>
    by_cases hp : pending = []
    · subst hp
      exact .nil
    · rw [merged, flushed_of_ne_nil hp]
      exact .cons_text hp (fun b hb => nomatch hb) .nil
  | cons a raw ih =>
    have hrest := fun name hn => hnamed name (List.mem_cons_of_mem a hn)
    cases a with
    | text run => exact ih (pending ++ run) hrest
    | placeholder name =>
      have hcons : Apart (.placeholder name :: merged [] raw) :=
        .cons_placeholder (hnamed name List.mem_cons_self) (ih [] hrest)
      by_cases hp : pending = []
      · subst hp
        exact hcons
      · rw [merged, flushed_of_ne_nil hp]
        refine .cons_text hp (fun b hb => ?_) hcons
        cases hb
        rfl

/-- Pieces that stand apart are read back as they are; a pending text before them must not meet a text. -/
theorem resume_written {ps : List Raw} (h : Apart ps) (pending : List Char)
    (hhead : pending = [] ∨ ∀ b ∈ ps.head?, b.isText = false) :
    resume pending (ps.flatMap written) = (flushed pending ++ ps, []) := by
  induction ps generalizing pending with
  | nil => rw [List.flatMap_nil, resume_nil, List.append_nil]
  | cons a ps ih =>
    have htail : Apart ps := ⟨fun hm => h.nonempty (List.mem_cons_of_mem a hm), h.chain.tail,
      fun n hn => h.named n (List.mem_cons_of_mem a hn)⟩
    cases a with
    | text run =>
      have hrun : run ≠ [] := fun he => h.nonempty (he ▸ List.mem_cons_self)
      have hnext : ∀ b ∈ ps.head?, b.isText = false := by
        intro b hb
        have hne := h.chain.rel_head? hb
        exact Bool.eq_false_iff.2 fun ht => hne ⟨rfl, ht⟩
      rcases hhead with hp | hh
      · subst hp
        rw [List.flatMap_cons]
        have hd := resume_doubled run [] (ps.flatMap written)
        rw [List.nil_append, ih htail run (Or.inr hnext), flushed_of_ne_nil hrun] at hd
        exact hd
      · exact Bool.noConfusion (hh (.text run) rfl)
    | placeholder name =>
      rw [List.flatMap_cons, resume_placeholder (h.named name List.mem_cons_self), ih htail [] (Or.inl rfl)]
      rfl

/-- Characters are read into pieces, with nothing left, just where these stand apart and are written as the characters. -/
theorem resume_eq_iff (cs : List Char) (ps : List Raw) :
    resume [] cs = (ps, []) ↔ Apart ps ∧ ps.flatMap written = cs := by
  constructor
  · intro h
    obtain ⟨hps, hleft⟩ := Prod.mk.inj h
    have hnamed : ∀ name, .placeholder name ∈ (scan cs).1 → ∀ c ∈ name, isNameChar c = true := by
      intro name hm
      cases proper_of_mem_scan hm with
      | placeholder hn => exact hn
    refine ⟨hps ▸ apart_merged [] _ hnamed, ?_⟩
    have hall := consumed_append_left cs
    rw [hleft, List.append_nil] at hall
    rw [← hps, written_merged]
    exact hall
  · rintro ⟨hps, rfl⟩
    exact resume_written hps [] (Or.inl rfl)

end Raw

end TypedFormat.Template

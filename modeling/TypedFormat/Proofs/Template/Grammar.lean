import TypedFormat.Proofs.Template.Scanning
import TypedFormat.Template.Reading

/-!
# The grammar of templates

The grammar is `token*`, where a token is a doubled opening brace, a doubled closing brace, a name between braces (which may
be empty) or a run of other characters. It is ambiguous, since a run can be cut anywhere, and the scanner reads one token
after the other without ever going back. Nevertheless the scanner accepts exactly the grammar, and where it stops it has
read the longest prefix that the grammar derives (`scanner_recognises`).

The law that carries this is `Raw.left_append`: what the grammar derives is consumed, and what comes after it is read as if
it stood alone.
-/

namespace TypedFormat.Template

open TypedFormat.Text

/-- A token of the grammar. -/
inductive IsToken : List Char → Prop where
  | opening : IsToken ['{', '{']
  | closing : IsToken ['}', '}']
  | placeholder {name : List Char} : (∀ c ∈ name, isNameChar c = true) → IsToken ('{' :: (name ++ ['}']))
  | text {run : List Char} : run ≠ [] → (∀ c ∈ run, isPlainChar c = true) → IsToken run

/-- The template `token*`. -/
inductive IsTemplate : List Char → Prop where
  | nil : IsTemplate []
  | cons {w cs : List Char} : IsToken w → IsTemplate cs → IsTemplate (w ++ cs)

namespace Raw

/-- What reading leaves of characters that start with a token is what it leaves of those after it. -/
theorem left_of_one {cs rest : List Char} {a : Raw} (h : one cs = some (a, rest)) : left cs = left rest := by
  rw [left, scan_of_some h]

/-- The plain characters in front are always consumed. -/
theorem left_dropWhile (cs : List Char) : left (cs.dropWhile isPlainChar) = left cs := by
  cases cs with
  | nil => rfl
  | cons c cs =>
    by_cases hc : isPlainChar c = true
    · rw [List.dropWhile_cons_of_pos hc, left_of_one (one_plain hc cs)]
    · rw [List.dropWhile_cons_of_neg hc]

/-- A token of the grammar is consumed, whatever comes after it. A run is read together with the plain characters that come
after it, and leaves the same. -/
theorem left_token_append {w : List Char} (h : IsToken w) (cs : List Char) : left (w ++ cs) = left cs := by
  cases h with
  | opening => exact left_of_one (one_opening cs)
  | closing => exact left_of_one (one_closing cs)
  | @placeholder name hname =>
    rw [List.cons_append, List.append_assoc]
    exact left_of_one (one_placeholder hname cs)
  | text hne hrun =>
    cases w with
    | nil => exact absurd rfl hne
    | cons c run =>
      obtain ⟨hc, hrun⟩ := List.forall_mem_cons.1 hrun
      rw [List.cons_append, left_of_one (one_plain hc _), List.dropWhile_append_of_pos hrun, left_dropWhile]

/-- What the grammar derives is consumed, whatever comes after it. -/
theorem left_append {w : List Char} (h : IsTemplate w) (cs : List Char) : left (w ++ cs) = left cs := by
  induction h with
  | nil => rfl
  | cons ht _ ih => rw [List.append_assoc, left_token_append ht, ih]

/-- Plain characters are written as they are. -/
theorem doubled_of_plain {run : List Char} (h : ∀ c ∈ run, isPlainChar c = true) : doubled run = run := by
  induction run with
  | nil => rfl
  | cons c run ih =>
    obtain ⟨hc, hrun⟩ := List.forall_mem_cons.1 h
    have hne : ¬(c = '{' ∨ c = '}') := by simpa [isPlainChar, not_or] using hc
    rw [doubled, if_neg hne, ih hrun]

/-- The raw tokens that the scanner reads. -/
inductive Proper : Raw → Prop where
  | opening : Proper (.text ['{'])
  | closing : Proper (.text ['}'])
  | placeholder {name : List Char} : (∀ c ∈ name, isNameChar c = true) → Proper (.placeholder name)
  | plain {run : List Char} : run ≠ [] → (∀ c ∈ run, isPlainChar c = true) → Proper (.text run)

/-- Raw tokens that are read are written as tokens of the grammar. -/
theorem Proper.isToken {a : Raw} (h : Proper a) : IsToken a.written := by
  cases h with
  | opening => exact .opening
  | closing => exact .closing
  | placeholder hname => exact .placeholder hname
  | plain hne hrun =>
    rw [written, doubled_of_plain hrun]
    exact .text hne hrun

/-- A step of the scanner reads a raw token as it is written. -/
theorem proper_of_one {cs rest : List Char} {a : Raw} (h : one cs = some (a, rest)) :
    Proper a ∧ a.written ++ rest = cs := by
  cases shape cs with
  | nil => cases h
  | opening r => cases h; exact ⟨.opening, rfl⟩
  | closing r => cases h; exact ⟨.closing, rfl⟩
  | placeholder name r hname =>
    rw [one_placeholder hname] at h
    cases h
    exact ⟨.placeholder hname, by simp [written]⟩
  | plain c r hc =>
    rw [one_plain hc] at h
    cases h
    have hrun : ∀ d ∈ c :: r.takeWhile isPlainChar, isPlainChar d = true :=
      List.forall_mem_cons.2 ⟨hc, fun d hd => List.mem_takeWhile_imp hd⟩
    refine ⟨.plain (List.cons_ne_nil _ _) hrun, ?_⟩
    rw [written, doubled_of_plain hrun, List.cons_append, List.takeWhile_append_dropWhile]
  | loneClosing hl => rw [one_loneClosing hl] at h; cases h
  | loneOpening hl => rw [one_loneOpening hl] at h; cases h

/-- All that is read are raw tokens of these kinds. -/
theorem proper_of_mem_scan {cs : List Char} {a : Raw} (h : a ∈ (scan cs).1) : Proper a := by
  induction cs using reading_induction with
  | stop cs hnone =>
    rw [scan_of_none hnone] at h
    cases h
  | step cs b rest hone ih =>
    rw [scan_of_some hone] at h
    rcases List.mem_cons.1 h with rfl | hmem
    · exact (proper_of_one hone).1
    · exact ih hmem

/-- Nothing of the characters is lost. -/
theorem consumed_append_left (cs : List Char) : consumed cs ++ left cs = cs := by
  induction cs using reading_induction with
  | stop cs h => rw [consumed, left, scan_of_none h]; rfl
  | step cs a rest h ih =>
    rw [consumed, left, scan_of_some h, List.flatMap_cons, List.append_assoc]
    exact (congrArg (a.written ++ ·) ih).trans (proper_of_one h).2

/-- What is read is derived by the grammar. -/
theorem isTemplate_consumed (cs : List Char) : IsTemplate (consumed cs) := by
  induction cs using reading_induction with
  | stop cs h => rw [consumed, scan_of_none h]; exact .nil
  | step cs a rest h ih => rw [consumed, scan_of_some h]; exact .cons (proper_of_one h).1.isToken ih

/-- Every prefix that the grammar derives is read. -/
theorem prefix_consumed {w cs : List Char} (hw : IsTemplate w) (hp : w <+: cs) : w <+: consumed cs := by
  obtain ⟨r, rfl⟩ := hp
  have hsplit : consumed (w ++ r) ++ left r = w ++ r := by rw [← left_append hw, consumed_append_left]
  refine List.prefix_of_prefix_length_le ⟨r, rfl⟩ ⟨left r, hsplit⟩ ?_
  have hlen := congrArg List.length hsplit
  have hle := congrArg List.length (consumed_append_left r)
  simp only [List.length_append] at hlen hle
  omega

/-- The scanner accepts exactly the grammar. -/
theorem left_eq_nil_iff (cs : List Char) : left cs = [] ↔ IsTemplate cs := by
  constructor
  · intro h
    have hc := consumed_append_left cs
    rw [h, List.append_nil] at hc
    exact hc ▸ isTemplate_consumed cs
  · intro h
    have hl := left_append h []
    rw [List.append_nil] at hl
    rw [hl, left, scan_of_none one_nil]

/-- Where no token starts there is nothing, or a brace out of place. -/
theorem lone_of_one_eq_none {cs : List Char} (h : one cs = none) : cs = [] ∨ LoneClosing cs ∨ LoneOpening cs := by
  cases shape cs with
  | nil => exact Or.inl rfl
  | opening r => cases h
  | closing r => cases h
  | placeholder name r hname => rw [one_placeholder hname] at h; cases h
  | plain c r hc => rw [one_plain hc] at h; cases h
  | loneClosing h => exact Or.inr (Or.inl h)
  | loneOpening h => exact Or.inr (Or.inr h)

/-- What the scanner leaves is nothing, or starts with a brace out of place. -/
theorem lone_left (cs : List Char) : left cs = [] ∨ LoneClosing (left cs) ∨ LoneOpening (left cs) :=
  lone_of_one_eq_none (one_left cs)

end Raw

/-! ## The place of the error -/

/-- The bytes that are left, subtracted from all, are those that were read. -/
theorem utf8Size_sub_left (cs : List Char) :
    utf8Size cs - utf8Size (Raw.left cs) = (String.ofList (Raw.consumed cs)).utf8ByteSize := by
  have h := congrArg utf8Size (Raw.consumed_append_left cs)
  rw [utf8Size_append] at h
  rw [← utf8Size_toList, String.toList_ofList]
  omega

/-- What is left over of a template of a permitted length is reported as a brace out of place. -/
theorem read?_of_left_ne_nil {template : String} (hlen : template.utf8ByteSize ≤ maxBytes)
    (h : Raw.left template.toList ≠ []) :
    Token.read? template = .error (braceError template.toList (Raw.left template.toList)) := by
  have hne : (Raw.scan template.toList).2.isEmpty = false := List.isEmpty_eq_false_iff.2 h
  unfold Token.read?
  rw [if_neg (Nat.not_lt.2 hlen), Raw.read_eq_scan]
  simp only [hne]
  rfl

/-- A lone closing brace is no opening brace. -/
theorem LoneClosing.not_loneOpening {cs : List Char} (h : LoneClosing cs) : ¬LoneOpening cs := by
  obtain ⟨after, rfl, -⟩ := h
  rintro ⟨after, he, -⟩
  cases he

/-- What is left over decides between the two errors; both are reported at the byte where reading ended. -/
theorem read?_of_lone {template : String} (hlen : template.utf8ByteSize ≤ maxBytes)
    (h : Raw.left template.toList ≠ []) :
    (LoneClosing (Raw.left template.toList) ∧ Token.read? template =
        .error (.unescapedBrace (String.ofList (Raw.consumed template.toList)).utf8ByteSize)) ∨
      (LoneOpening (Raw.left template.toList) ∧ Token.read? template =
        .error (.malformedPlaceholder (String.ofList (Raw.consumed template.toList)).utf8ByteSize)) := by
  have he := read?_of_left_ne_nil hlen h
  rcases (Raw.lone_left template.toList).resolve_left h with hc | ho
  · obtain ⟨after, hcs, -⟩ := id hc
    refine Or.inl ⟨hc, ?_⟩
    rw [he, ← utf8Size_sub_left, hcs]
    rfl
  · obtain ⟨after, hcs, -⟩ := id ho
    refine Or.inr ⟨ho, ?_⟩
    rw [he, ← utf8Size_sub_left, hcs]
    rfl

/-! ## The wording of the error -/

namespace TemplateError

/-- The message opens with the words. -/
def Opens (e : TemplateError) (words : String) : Prop := words.toList <+: e.message.toList

/-- Whether a message opens with words that are no longer than its heading is seen from the heading. -/
theorem opens_iff (e : TemplateError) {words : String} (hlen : words.toList.length ≤ e.heading.toList.length) :
    e.Opens words ↔ words.toList <+: e.heading.toList := by
  obtain ⟨ending, hmessage⟩ := e.exists_message
  rw [Opens, hmessage, String.append_assoc, String.toList_append]
  constructor
  · intro hp
    exact List.prefix_of_prefix_length_le hp (List.prefix_append _ _) hlen
  · intro hp
    exact hp.trans (List.prefix_append _ _)

/-- The message about a lone closing brace opens as such, and not like the other. -/
theorem opens_unescapedBrace (n : Nat) :
    (unescapedBrace n).Opens "Unescaped '\x7d'" ∧ ¬(unescapedBrace n).Opens "Malformed placeholder" := by
  rw [opens_iff _ (by simp only [heading]; decide), opens_iff _ (by simp only [heading]; decide)]
  simp only [heading]
  decide

/-- The message about a malformed placeholder opens as such, and not like the other. -/
theorem opens_malformedPlaceholder (n : Nat) :
    (malformedPlaceholder n).Opens "Malformed placeholder" ∧ ¬(malformedPlaceholder n).Opens "Unescaped '\x7d'" := by
  rw [opens_iff _ (by simp only [heading]; decide), opens_iff _ (by simp only [heading]; decide)]
  simp only [heading]
  decide

end TemplateError

/-- The scanner recognises exactly the grammar and finds the place of the error. It consumes the whole template if and only if
the grammar derives it; otherwise what it consumes is the longest prefix that the grammar derives, and the template is
refused at the byte where that prefix ends, and nowhere else: as a lone closing brace if and only if one stands there, and as
a malformed placeholder if and only if an opening brace does that is neither doubled nor closed after a name. The message says
so. There is no third case. -/
theorem scanner_recognises (template : String) (hlen : template.utf8ByteSize ≤ maxBytes) :
    ∃ raw done rest, Raw.read template.toList = .ok (raw, rest) ∧ done ++ rest = template.toList ∧
      (rest = [] ↔ IsTemplate template.toList) ∧
      IsTemplate done ∧ (∀ w, IsTemplate w → w <+: template.toList → w <+: done) ∧
      (rest ≠ [] → (LoneClosing rest ∨ LoneOpening rest) ∧
        (∀ n, Token.read? template = .error (.unescapedBrace n) ↔
          LoneClosing rest ∧ n = (String.ofList done).utf8ByteSize) ∧
        (∀ n, Token.read? template = .error (.malformedPlaceholder n) ↔
          LoneOpening rest ∧ n = (String.ofList done).utf8ByteSize) ∧
        ∃ e, Token.read? template = .error e ∧ (e.Opens "Unescaped '\x7d'" ↔ LoneClosing rest) ∧
          (e.Opens "Malformed placeholder" ↔ LoneOpening rest)) := by
  refine ⟨_, Raw.consumed template.toList, Raw.left template.toList, Raw.read_eq_scan _, Raw.consumed_append_left _,
    Raw.left_eq_nil_iff _, Raw.isTemplate_consumed _, fun w hw hp => Raw.prefix_consumed hw hp, fun hne => ?_⟩
  rcases read?_of_lone hlen hne with ⟨hc, he⟩ | ⟨ho, he⟩
  · have ho := hc.not_loneOpening
    obtain ⟨hopens, hnot⟩ := TemplateError.opens_unescapedBrace (String.ofList (Raw.consumed template.toList)).utf8ByteSize
    refine ⟨Or.inl hc, fun n => ⟨fun h => ?_, ?_⟩, fun n => ⟨fun h => ?_, fun h => absurd h.1 ho⟩, _, he,
      iff_of_true hopens hc, iff_of_false hnot ho⟩
    · cases he.symm.trans h
      exact ⟨hc, rfl⟩
    · rintro ⟨-, rfl⟩
      exact he
    · cases he.symm.trans h
  · have hc : ¬LoneClosing (Raw.left template.toList) := fun h => h.not_loneOpening ho
    obtain ⟨hopens, hnot⟩ :=
      TemplateError.opens_malformedPlaceholder (String.ofList (Raw.consumed template.toList)).utf8ByteSize
    refine ⟨Or.inr ho, fun n => ⟨fun h => ?_, fun h => absurd h.1 hc⟩, fun n => ⟨fun h => ?_, ?_⟩, _, he,
      iff_of_false hnot hc, iff_of_true hopens ho⟩
    · cases he.symm.trans h
    · cases he.symm.trans h
      exact ⟨ho, rfl⟩
    · rintro ⟨-, rfl⟩
      exact he

/-- Doubled braces and a character of several bytes are read before a placeholder that is not closed. -/
theorem scanner_recognises_open_name :
    "é\x7b\x7b\x7bint \x7d".utf8ByteSize ≤ maxBytes ∧
      Token.read? "é\x7b\x7b\x7bint \x7d" = .error (.malformedPlaceholder 4) := by
  have hlen : "é\x7b\x7b\x7bint \x7d".utf8ByteSize ≤ maxBytes := by decide
  obtain ⟨raw, done, rest, hread, hsplit, -, -, -, herror⟩ := scanner_recognises "é\x7b\x7b\x7bint \x7d" hlen
  have hscan : Raw.read "é\x7b\x7b\x7bint \x7d".toList =
      .ok ([.text ['é'], .text ['{']], ['{', 'i', 'n', 't', ' ', '}']) := by decide +kernel
  cases hscan.symm.trans hread
  have hdone : done = ['é', '{', '{'] := List.append_cancel_right (hsplit.trans (by decide : _ = ['é', '{', '{'] ++ _))
  subst hdone
  have hlone : LoneOpening ['{', 'i', 'n', 't', ' ', '}'] := ⟨_, rfl, by decide, by decide⟩
  exact ⟨hlen, ((herror (List.cons_ne_nil _ _)).2.2.1 4).2 ⟨hlone, by decide⟩⟩

end TypedFormat.Template

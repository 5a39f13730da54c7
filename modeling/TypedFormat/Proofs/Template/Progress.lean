import TypedFormat.Proofs.Template.Junction
import TypedFormat.Proofs.Text.Repetition

/-!
# Reading a template always goes on

The scanners of raw tokens are matchers put together from fixed texts and runs of characters (`Raw.matchToken_eq`). None of them
gives up for good, and none reads an item without consuming a character, although the name between two braces may be empty
(`Raw.one_consuming`). So the repetition that reads a template ends, it ends where no token starts, and no template is refused
because reading it failed (`reading_never_stalls`). What it leaves is a suffix of the template, and a brace out of place is
reported at the byte where this suffix starts: on the boundary of a character, before the end.
-/

namespace TypedFormat.Template

open TypedFormat.Text

namespace Raw

/-! ## The scanners as matchers -/

/-- A doubled brace, as the text of one brace. -/
def matchEscapedBrace : Matcher Raw :=
  ((Matcher.tag ['{', '{']).map fun _ => text ['{']).orElse ((Matcher.tag ['}', '}']).map fun _ => text ['}'])

/-- A name between braces. -/
def matchPlaceholder : Matcher Raw :=
  (Matcher.delimited (.char '{') (.takeWhile isNameChar) (.char '}')).map placeholder

/-- A run of plain characters. -/
def matchText : Matcher Raw := (Matcher.takeWhile1 isPlainChar).map text

/-- One token. -/
def matchToken : Matcher Raw := (matchEscapedBrace.orElse matchPlaceholder).orElse matchText

theorem matchEscapedBrace_eq : matchEscapedBrace = .ofScanner escapedBrace := by
  funext cs
  by_cases ho : ['{', '{'] <+: cs
  · obtain ⟨rest, rfl⟩ := ho
    rfl
  · by_cases hc : ['}', '}'] <+: cs
    · obtain ⟨rest, rfl⟩ := hc
      rfl
    · have hnone : escapedBrace cs = none := by
        unfold escapedBrace
        split
        · exact absurd ⟨_, rfl⟩ ho
        · exact absurd ⟨_, rfl⟩ hc
        · rfl
      simp only [matchEscapedBrace, Matcher.orElse, Matcher.map, Matcher.andThen, Matcher.tag, Matcher.ofScanner, hnone,
        if_neg ho, if_neg hc]

theorem matchPlaceholder_eq : matchPlaceholder = .ofScanner bracedName := by
  funext cs
  cases cs with
  | nil => rfl
  | cons c cs =>
    simp only [matchPlaceholder, Matcher.delimited, Matcher.map, Matcher.andThen, Matcher.char, Matcher.takeWhile,
      Matcher.ofScanner]
    by_cases ho : c = '{'
    · subst ho
      -- What comes after the longest run of name characters decides, also where that run is empty.
      cases hd : cs.dropWhile isNameChar with
      | nil => simp [bracedName, hd]
      | cons d after =>
        by_cases hc : d = '}'
        · subst hc
          simp [bracedName, hd]
        · simp [bracedName, hd, hc]
    · simp [bracedName, ho]

theorem matchText_eq : matchText = .ofScanner plainRun := by
  funext cs
  simp only [matchText, Matcher.map, Matcher.andThen, Matcher.takeWhile1, Matcher.ofScanner, plainRun]
  cases cs.takeWhile isPlainChar with
  | nil => rfl
  | cons c run => rfl

/-- The matcher of a token is the scanner that reads one, so it never gives up. -/
theorem matchToken_eq : matchToken = .ofScanner one := by
  rw [matchToken, matchEscapedBrace_eq, matchPlaceholder_eq, matchText_eq, Matcher.orElse_ofScanner,
    Matcher.orElse_ofScanner]
  rfl

/-! ## Every scanner leaves a proper suffix -/

theorem escapedBrace_consuming : Scanner.Consuming escapedBrace := by
  refine escapedBrace_progressing.consuming fun cs a rest h => ?_
  unfold escapedBrace at h
  split at h <;> cases h
  · exact List.suffix_append ['{', '{'] rest
  · exact List.suffix_append ['}', '}'] rest

theorem bracedName_consuming : Scanner.Consuming bracedName := by
  refine bracedName_progressing.consuming fun cs a rest h => ?_
  unfold bracedName at h
  split at h
  · next tail =>
    split at h
    · next after hd =>
      cases h
      have hclosing : rest <:+ tail.dropWhile isNameChar := hd ▸ List.suffix_cons '}' rest
      exact (hclosing.trans (List.dropWhile_suffix _)).trans (List.suffix_cons '{' tail)
    · cases h
  · cases h

theorem plainRun_consuming : Scanner.Consuming plainRun := by
  refine plainRun_progressing.consuming fun cs a rest h => ?_
  unfold plainRun at h
  split at h <;> cases h
  exact List.dropWhile_suffix _

theorem one_consuming : Scanner.Consuming one :=
  one_progressing.consuming fun _ a _ h => ⟨a.written, (proper_of_one h).2⟩

end Raw

/-! ## The place of the rest -/

/-- What is left of a template takes no more bytes than the template. It starts on the boundary of a character, and before the end
unless nothing is left. -/
theorem place_of_rest {template : String} {front rest : List Char} (h : front ++ rest = template.toList) :
    utf8Size rest ≤ template.utf8ByteSize ∧
      String.Pos.Raw.IsValid template ⟨template.utf8ByteSize - utf8Size rest⟩ ∧
      (rest ≠ [] → template.utf8ByteSize - utf8Size rest < template.utf8ByteSize) := by
  have hsize : template.utf8ByteSize = utf8Size front + utf8Size rest := by
    rw [← utf8Size_toList, ← h, utf8Size_append]
  refine ⟨by omega, ?_, fun hne => ?_⟩
  · have hsplit : template = String.ofList front ++ String.ofList rest := by
      rw [← String.ofList_append, h, String.ofList_toList]
    have hfront : template.utf8ByteSize - utf8Size rest = (String.ofList front).utf8ByteSize := by
      rw [← utf8Size_toList (String.ofList front), String.toList_ofList]
      omega
    exact String.Pos.Raw.isValid_iff_exists_append.2 ⟨_, _, hsplit, congrArg String.Pos.Raw.mk hfront⟩
  · have hpos := utf8Size_pos hne
    omega

/-- A brace out of place is reported at the byte where the rest starts. -/
theorem offset_of_braceError {kind : Nat → TemplateError} (hk : BraceFault kind) {cs rest : List Char} {o : Nat}
    (h : braceError cs rest = kind o) : o = utf8Size cs - utf8Size rest := by
  unfold braceError at h
  split at h <;> rcases hk with rfl | rfl <;> cases h <;> rfl

/-! ## The wording of the refusals -/

namespace TemplateError

/-- Only the message about a reading that stalled calls the template invalid. -/
theorem opens_invalid_iff (e : TemplateError) : e.Opens "Invalid template" ↔ e = stalled := by
  have hlen : "Invalid template".toList.length ≤ e.heading.toList.length := by
    cases e <;> simp only [heading] <;> decide
  rw [e.opens_iff hlen]
  cases e with
  | stalled => exact iff_of_true (List.prefix_refl _) rfl
  | _ =>
    refine iff_of_false ?_ fun h => ?_
    · simp only [heading]
      decide
    · cases h

end TemplateError

/-- A template is not refused because reading it stalled. -/
theorem read?_ne_stalled (template : String) : Token.read? template ≠ .error .stalled := by
  by_cases hlen : template.utf8ByteSize ≤ maxBytes
  · by_cases hleft : Raw.left template.toList = []
    · rw [read?_of_left_eq_nil hlen hleft]
      intro h
      rcases accept_eq_error h with ⟨name, he⟩ | ⟨count, he⟩ <;> cases he
    · rcases read?_of_lone hlen hleft with ⟨-, he⟩ | ⟨-, he⟩ <;> rw [he] <;> exact nofun
  · rw [read?_of_maxBytes_lt (Nat.lt_of_not_le hlen)]
    exact nofun

/-- Reading a template always goes on and never fails. The three scanners are matchers that never give up, and each leaves a
proper suffix of what it is given. So the repetition of the three goes round only finitely often, on whatever characters, and
over a template it has one ending: it reads the tokens that `Raw.read` gives, and neither stalls nor is aborted. What it leaves
is a suffix of the template and takes no more bytes. The difference is the byte at which a brace out of place is reported, on
the boundary of a character and before the end of the template. No template is refused as invalid. -/
theorem reading_never_stalls (template : String) :
    (∀ p ∈ [(Raw.matchEscapedBrace, Raw.escapedBrace), (Raw.matchPlaceholder, Raw.bracedName),
        (Raw.matchText, Raw.plainRun)], p.1 = .ofScanner p.2 ∧
      ∀ cs a rest, p.2 cs = some (a, rest) → ∃ front, front ≠ [] ∧ front ++ rest = cs) ∧
    (WellFounded fun next l : Loop Raw => l.round Raw.matchToken = .inl next) ∧
    ∃ raw rest, Raw.read template.toList = .ok (raw, rest) ∧
      (∀ e, Loop.Ends Raw.matchToken template.toList e ↔ e = .done raw rest) ∧
      rest <:+ template.toList ∧ utf8Size rest ≤ template.utf8ByteSize ∧
      String.Pos.Raw.IsValid template ⟨template.utf8ByteSize - utf8Size rest⟩ ∧
      (rest ≠ [] → template.utf8ByteSize - utf8Size rest < template.utf8ByteSize) ∧
      (∀ kind o, BraceFault kind → Token.read? template = .error (kind o) →
        rest ≠ [] ∧ o = template.utf8ByteSize - utf8Size rest) ∧
      ∀ e, Token.read? template = .error e → e ≠ .stalled ∧ ¬e.Opens "Invalid template" := by
  have hsplit := Raw.consumed_append_left template.toList
  obtain ⟨hle, hvalid, hlt⟩ := place_of_rest hsplit
  refine ⟨?_, ?_, (Raw.scan template.toList).1, Raw.left template.toList, Raw.read_eq_scan _, fun e => ?_,
    ⟨_, hsplit⟩, hle, hvalid, hlt, fun kind o hk h => ?_, fun e h => ?_⟩
  · exact List.forall_mem_cons.2 ⟨⟨Raw.matchEscapedBrace_eq, Raw.escapedBrace_consuming⟩,
      List.forall_mem_cons.2 ⟨⟨Raw.matchPlaceholder_eq, Raw.bracedName_consuming⟩,
        List.forall_mem_singleton.2 ⟨Raw.matchText_eq, Raw.plainRun_consuming⟩⟩⟩
  · rw [Raw.matchToken_eq]
    exact Loop.wellFounded_round Raw.one_consuming
  · rw [Raw.matchToken_eq]
    exact Loop.ends_iff Raw.one_consuming (Raw.read_eq_scan _) e
  · obtain ⟨hne, he⟩ := braceError_of_read? hk h
    exact ⟨hne, by rw [offset_of_braceError hk he, utf8Size_toList]⟩
  · have hne : e ≠ .stalled := by
      rintro rfl
      exact read?_ne_stalled template h
    exact ⟨hne, fun ho => hne (e.opens_invalid_iff.1 ho)⟩

/-- Between two braces there may be no name at all, and the reading still goes on. It stops at the brace after them, four bytes
on, since the first character takes two. -/
theorem reading_never_stalls_empty_name :
    (∀ e, Loop.Ends Raw.matchToken "é\x7b\x7d\x7bé".toList e ↔ e = .done [.text ['é'], .placeholder []] ['{', 'é']) ∧
    String.Pos.Raw.IsValid "é\x7b\x7d\x7bé" ⟨4⟩ ∧ 4 < "é\x7b\x7d\x7bé".utf8ByteSize ∧
    Token.read? "é\x7b\x7d\x7bé" = .error (.malformedPlaceholder 4) ∧
    ¬(TemplateError.malformedPlaceholder 4).Opens "Invalid template" := by
  have hscan : Raw.read "é\x7b\x7d\x7bé".toList = .ok ([.text ['é'], .placeholder []], ['{', 'é']) := by decide +kernel
  have herror : Token.read? "é\x7b\x7d\x7bé" = .error (.malformedPlaceholder 4) := by decide +kernel
  obtain ⟨-, -, raw, rest, hread, hends, -, -, hvalid, hlt, -, hwords⟩ := reading_never_stalls "é\x7b\x7d\x7bé"
  cases hscan.symm.trans hread
  exact ⟨hends, hvalid, hlt (List.cons_ne_nil _ _), herror, (hwords _ herror).2⟩

end TypedFormat.Template

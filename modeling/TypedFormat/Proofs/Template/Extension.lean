import TypedFormat.Proofs.Template.Junction

/-!
# Templates that are extended

A template on which reading stops at a brace may go on. What was read of it stays read (`Raw.scan_append`), since reading never
stops inside a run of plain characters and every other token ends with its own brace. What was left of it is mended by more
characters only if it is `Unfinished`: one closing brace that can still be doubled, or an opening brace with a name that can
still be closed. Anything else that is left is out of place for good (`Raw.one_append_of_stuck`), and the template is refused with
the same error however it goes on (`extended_template`).
-/

namespace TypedFormat.Template

open TypedFormat.Text

/-- The brace that the characters start with is only out of place because they end too early: a closing brace could still be
doubled, and a name after an opening brace could still be closed. -/
inductive Unfinished : List Char → Prop where
  | closing : Unfinished ['}']
  | opening {name : List Char} : (∀ c ∈ name, isNameChar c = true) → Unfinished ('{' :: name)

/-- What is unfinished is finished by one closing brace. -/
theorem Unfinished.isTemplate {cs : List Char} (h : Unfinished cs) : IsTemplate (cs ++ ['}']) := by
  cases h with
  | closing =>
    have htoken : IsTemplate (['}', '}'] ++ []) := .cons .closing .nil
    exact htoken
  | @opening name hname =>
    have htoken : IsTemplate ('{' :: (name ++ ['}']) ++ []) := .cons (.placeholder hname) .nil
    rw [List.append_nil] at htoken
    exact htoken

/-! ## Braces that stay out of place -/

/-- A closing brace that is not doubled is not doubled later, unless nothing stands after it yet. -/
theorem LoneClosing.append {cs : List Char} (h : LoneClosing cs) (hu : ¬Unfinished cs) (more : List Char) :
    LoneClosing (cs ++ more) := by
  obtain ⟨after, rfl, hne⟩ := h
  cases after with
  | nil => exact absurd Unfinished.closing hu
  | cons c after => exact ⟨c :: after ++ more, rfl, hne⟩

/-- An opening brace that is neither doubled nor closed after a name is not so later, unless the name reaches the end. -/
theorem LoneOpening.append {cs : List Char} (h : LoneOpening cs) (hu : ¬Unfinished cs) (more : List Char) :
    LoneOpening (cs ++ more) := by
  obtain ⟨after, rfl, hne, hname⟩ := h
  cases hd : after.dropWhile isNameChar with
  | nil =>
    have hall : ∀ c ∈ after, isNameChar c = true := List.dropWhile_eq_nil_iff.1 hd
    exact absurd (Unfinished.opening hall) hu
  | cons d tail =>
    cases after with
    | nil => cases hd
    | cons c after =>
      refine ⟨c :: after ++ more, rfl, hne, ?_⟩
      rw [List.dropWhile_append, hd]
      rw [hd] at hname
      exact hname

namespace Raw

/-- Where no token starts, none starts with more characters behind either, unless what is there is unfinished. -/
theorem one_append_of_stuck {cs : List Char} (hne : cs ≠ []) (h : one cs = none) (hu : ¬Unfinished cs)
    (more : List Char) : one (cs ++ more) = none := by
  rcases lone_of_one_eq_none h with rfl | hc | ho
  · exact absurd rfl hne
  · exact one_loneClosing (hc.append hu more)
  · exact one_loneOpening (ho.append hu more)

/-! ## What was read stays read -/

/-- A token that something comes after is read in the same way with more characters behind. -/
theorem one_append {cs rest : List Char} {a : Raw} (h : one cs = some (a, rest)) (hne : rest ≠ []) (more : List Char) :
    one (cs ++ more) = some (a, rest ++ more) := by
  cases shape cs with
  | nil => cases h
  | opening r => cases h; exact one_opening _
  | closing r => cases h; exact one_closing _
  | placeholder name r hname =>
    rw [one_placeholder hname] at h
    cases h
    rw [List.cons_append, List.append_assoc]
    exact one_placeholder hname _
  | plain c r hc =>
    rw [one_plain hc] at h
    cases h
    -- The run ends before the first brace, so it is the same whatever comes after that.
    have hdrop : (r ++ more).dropWhile isPlainChar = r.dropWhile isPlainChar ++ more := by
      rw [List.dropWhile_append, if_neg (fun he => hne (List.isEmpty_iff.1 he))]
    have htake : (r ++ more).takeWhile isPlainChar = r.takeWhile isPlainChar := by
      have hsplit := List.takeWhile_append_dropWhile (p := isPlainChar) (l := r ++ more)
      have hfirst := List.takeWhile_append_dropWhile (p := isPlainChar) (l := r)
      rw [hdrop, ← List.append_assoc] at hsplit
      exact List.append_cancel_right ((List.append_cancel_right hsplit).trans hfirst.symm)
    rw [List.cons_append, one_plain hc, hdrop, htake]
  | loneClosing hl => rw [one_loneClosing hl] at h; cases h
  | loneOpening hl => rw [one_loneOpening hl] at h; cases h

/-- Characters that are not read to their end are read in the same way with more behind, up to where reading stopped; from there
it goes on with what was left and what is new. -/
theorem scan_append {cs : List Char} (h : left cs ≠ []) (more : List Char) :
    scan (cs ++ more) = ((scan cs).1 ++ (scan (left cs ++ more)).1, left (left cs ++ more)) := by
  induction cs using reading_induction with
  | stop cs hnone =>
    rw [left, scan_of_none hnone]
    rfl
  | step cs a rest hone ih =>
    have hleft : left rest ≠ [] := left_of_one hone ▸ h
    have hrest : rest ≠ [] := by
      rintro rfl
      rw [left, scan_of_none one_nil] at hleft
      exact hleft rfl
    have hsame := ih hleft
    have hread : left (rest ++ more) = left (left rest ++ more) := by
      rw [left, hsame]
    rw [scan_of_some (one_append hone hrest more), left_of_one hone, scan_of_some hone, hsame, hread]
    rfl

/-- What is left of characters that are extended is what is left of the rest with the extension. -/
theorem left_append_of_left_ne_nil {cs : List Char} (h : left cs ≠ []) (more : List Char) :
    left (cs ++ more) = left (left cs ++ more) := by
  rw [left, scan_append h]

/-- What is left for good is left together with the extension. -/
theorem left_append_of_stuck {cs : List Char} (h : left cs ≠ []) (hu : ¬Unfinished (left cs)) (more : List Char) :
    left (cs ++ more) = left cs ++ more := by
  rw [left_append_of_left_ne_nil h, left, scan_of_none (one_append_of_stuck h (one_left cs) hu more)]

end Raw

/-! ## The error of an extended template -/

/-- A brace is reported where reading stopped, whatever comes after it. -/
theorem braceError_append_right {cs rest : List Char} (hne : rest ≠ []) (more : List Char) :
    braceError (cs ++ more) (rest ++ more) = braceError cs rest := by
  have hoffset : utf8Size (cs ++ more) - utf8Size (rest ++ more) = utf8Size cs - utf8Size rest := by
    rw [utf8Size_append, utf8Size_append]
    omega
  cases rest with
  | nil => exact absurd rfl hne
  | cons c rest =>
    unfold braceError
    simp only [hoffset]
    by_cases hc : c = '}'
    · subst hc
      rfl
    · split
      · next heq => cases heq; exact absurd rfl hc
      · split
        · next heq => cases heq; exact absurd rfl hc
        · rfl

/-- The error about a brace is one of the two kinds. -/
theorem exists_braceFault (cs rest : List Char) : ∃ kind o, BraceFault kind ∧ braceError cs rest = kind o := by
  unfold braceError
  split
  · exact ⟨_, _, Or.inl rfl, rfl⟩
  · exact ⟨_, _, Or.inr rfl, rfl⟩

/-- A template on which reading stops at a brace can be mended by going on, or never. It can just if the brace is a single
closing one at the end or an opening one with nothing but a name after it. Otherwise the template is refused with the same kind of
error at the same byte however it goes on, as long as it does not become too long. Either way all tokens that were read of it are
read again. -/
theorem extended_template (t : String) (raw : List Raw) (rest : List Char) (hread : Raw.read t.toList = .ok (raw, rest))
    (hne : rest ≠ []) :
    (Unfinished rest ↔ ∃ s all, Raw.read (t ++ s).toList = .ok (all, [])) ∧
    (¬Unfinished rest → ∀ s, (t ++ s).utf8ByteSize ≤ maxBytes → ∃ kind o, BraceFault kind ∧
      Token.read? t = .error (kind o) ∧ Token.read? (t ++ s) = .error (kind o)) ∧
    ∀ s, ∃ more left, Raw.read (t ++ s).toList = .ok (raw ++ more, left) := by
  have hscan : Raw.scan t.toList = (raw, rest) := Except.ok.inj ((Raw.read_eq_scan _).symm.trans hread)
  obtain rfl : raw = (Raw.scan t.toList).1 := by rw [hscan]
  obtain rfl : rest = Raw.left t.toList := by rw [Raw.left, hscan]
  refine ⟨⟨fun hu => ?_, fun hmended => ?_⟩, fun hu s hbytes => ?_, fun s => ?_⟩
  · refine ⟨"\x7d", (Raw.scan (t ++ "\x7d").toList).1, ?_⟩
    have hleft : Raw.left (t ++ "\x7d").toList = [] := by
      rw [String.toList_append, Raw.left_append_of_left_ne_nil hne]
      exact (Raw.left_eq_nil_iff _).2 hu.isTemplate
    rw [Raw.read_eq_scan, ← hleft]
    rfl
  · obtain ⟨s, all, hall⟩ := hmended
    by_contra hu
    have hleft : Raw.left (t ++ s).toList = [] := by
      rw [Raw.read_eq_scan] at hall
      exact congrArg Prod.snd (Except.ok.inj hall)
    rw [String.toList_append, Raw.left_append_of_stuck hne hu] at hleft
    exact hne (List.append_eq_nil_iff.1 hleft).1
  · have hfirst : t.utf8ByteSize ≤ maxBytes := by
      rw [String.utf8ByteSize_append] at hbytes
      omega
    have hleft : Raw.left (t ++ s).toList = Raw.left t.toList ++ s.toList := by
      rw [String.toList_append, Raw.left_append_of_stuck hne hu]
    have hstill : Raw.left (t ++ s).toList ≠ [] := by
      rw [hleft]
      exact List.append_ne_nil_of_left_ne_nil hne _
    obtain ⟨kind, o, hkind, herror⟩ := exists_braceFault t.toList (Raw.left t.toList)
    refine ⟨kind, o, hkind, ?_, ?_⟩
    · rw [read?_of_left_ne_nil hfirst hne, herror]
    · rw [read?_of_left_ne_nil hbytes hstill, hleft, String.toList_append, braceError_append_right hne, herror]
  · rw [Raw.read_eq_scan, String.toList_append, Raw.scan_append hne]
    exact ⟨_, _, rfl⟩

/-- A name that is still open is closed by what comes after it. With a blank after the name it stays out of place, although a
closing brace follows, and so does a closing brace that another character comes after. -/
theorem extended_template_open_name :
    (∃ s all, Raw.read ("é\x7b\x7b\x7bin" ++ s).toList = .ok (all, [])) ∧
    (∃ more left, Raw.read ("é\x7b\x7b\x7bin" ++ "t\x7d").toList =
      .ok ([.text ['é'], .text ['{']] ++ more, left)) ∧
    Token.read? ("é\x7bint " ++ "\x7d") = .error (.malformedPlaceholder 2) ∧
    Token.read? ("\x7b\x7d\x7da" ++ "\x7d\x7d") = .error (.unescapedBrace 2) := by
  have hopen : Raw.read "é\x7b\x7b\x7bin".toList = .ok ([.text ['é'], .text ['{']], ['{', 'i', 'n']) := by
    decide +kernel
  have hblank : Raw.read "é\x7bint ".toList = .ok ([.text ['é']], ['{', 'i', 'n', 't', ' ']) := by decide +kernel
  have hclosing : Raw.read "\x7b\x7d\x7da".toList = .ok ([.placeholder []], ['}', 'a']) := by decide +kernel
  obtain ⟨hmended, -, hkept⟩ := extended_template _ _ _ hopen (List.cons_ne_nil _ _)
  obtain ⟨-, hstuck, -⟩ := extended_template _ _ _ hblank (List.cons_ne_nil _ _)
  obtain ⟨-, hlone, -⟩ := extended_template _ _ _ hclosing (List.cons_ne_nil _ _)
  have hopened : Unfinished ['{', 'i', 'n'] :=
    .opening (List.forall_mem_cons.2 ⟨rfl, List.forall_mem_singleton.2 rfl⟩)
  refine ⟨hmended.1 hopened, hkept "t\x7d", ?_, ?_⟩
  · have hu : ¬Unfinished ['{', 'i', 'n', 't', ' '] := by
      intro h
      cases h with
      | opening hname => exact absurd (hname ' ' (by decide)) (by decide)
    obtain ⟨kind, o, -, ht, hs⟩ := hstuck hu "\x7d" (by decide)
    have hread : Token.read? "é\x7bint " = .error (.malformedPlaceholder 2) := by decide +kernel
    rw [hs, ← ht, hread]
  · have hu : ¬Unfinished ['}', 'a'] := nofun
    obtain ⟨kind, o, -, ht, hs⟩ := hlone hu "\x7d\x7d" (by decide)
    have hread : Token.read? "\x7b\x7d\x7da" = .error (.unescapedBrace 2) := by decide +kernel
    rw [hs, ← ht, hread]

end TypedFormat.Template

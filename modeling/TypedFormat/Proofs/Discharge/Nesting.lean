import TypedFormat.Description
import TypedFormat.Proofs.Discharge.Walk

/-!
# Nesting and splicing

A placeholder can discharge a whole format on each row of a list and join the texts (`Renderer.nested`). The same text comes from
a flat format: in place of the placeholder it has one copy of the inner format for each row, with separators between them, and
the rows come one after the other among the arguments.

On exactly its arguments a format has a text or a fault (`Format.text`), and both are found part by part
(`Format.text_join`, `Format.text_separated`), so the first fault of the rows is the first of the flat format. `Nesting` describes
formats whose placeholders nest to any depth; `Nesting.discharge_spliced` says that splicing all of them changes nothing.
-/

namespace TypedFormat

/-! ## The text on exactly the arguments -/

namespace Format

/-- The text of a format on its arguments, or the first fault. -/
def text (t : Format (Except Fault)) (args : List Value) : Except Fault String := do (← t.sprintf.supplyAll args).finish

/-- Every placeholder takes one argument. -/
theorem length_placeholders (t : Format (Except Fault)) : t.placeholders.length = t.arity := by
  induction t with
  | literal text => rfl
  | placeholder render => rfl
  | join left way right ihl ihr =>
    rw [placeholders, leaves, List.filterMap_append, List.length_append, arity, ← ihl, ← ihr]
    rfl

end Format

/-- As many arguments as there are placeholders carry leaves to a text or to a fault, after whatever text. -/
theorem walk_exact {ls : List (Leaf (Except Fault))} {args : List Value}
    (h : args.length = (ls.filterMap Leaf.render?).length) :
    ∃ r : Except Fault String, ∀ front, walk ls front args = r.map fun text => .complete (front ++ text) [] := by
  induction ls generalizing args with
  | nil =>
    cases List.eq_nil_of_length_eq_zero h
    exact ⟨.ok "", fun front => by rw [Except.map, String.append_empty]; rfl⟩
  | cons l ls ih =>
    cases l with
    | literal text =>
      obtain ⟨r, hr⟩ := ih h
      refine ⟨r.map fun rest => text ++ rest, fun front => ?_⟩
      rw [walk, hr]
      cases r with
      | error e => rfl
      | ok rest => simp only [Except.map, String.append_assoc]
    | placeholder render =>
      cases args with
      | nil => cases h
      | cons v vs =>
        obtain ⟨r, hr⟩ := ih (Nat.succ.inj h)
        refine ⟨render v >>= fun text => r.map fun rest => text ++ rest, fun front => ?_⟩
        rw [walk]
        cases render v with
        | error e => rfl
        | ok text =>
          refine (hr (front ++ text)).trans ?_
          cases r with
          | error e => rfl
          | ok rest => exact congrArg (fun s => Except.ok (Reach.complete s [])) String.append_assoc

namespace Format

variable {t l r : Format (Except Fault)} {args la ra : List Value}

/-- On exactly its arguments, a format is walked to its text, after whatever text stands in front. -/
theorem walk_of_length (h : args.length = t.arity) (front : String) :
    walk t.leaves front args = (t.text args).map fun text => .complete (front ++ text) [] := by
  obtain ⟨r, hr⟩ := walk_exact (h.trans t.length_placeholders.symm)
  have hl := t.leads_sprintf args
  have htext : t.text args = r := by
    rw [hr ""] at hl
    rw [text]
    cases r with
    | error e =>
      have hs : t.sprintf.supplyAll args = .error e := hl
      rw [hs]
      rfl
    | ok s =>
      have hs : t.sprintf.supplyAll args = Callable.supplyAll (⟨0, "" ++ s⟩ : Chain String) [] := hl
      rw [hs, String.empty_append]
      rfl
  rw [hr front, htext]

/-- The text is read off the walk. -/
theorem text_of_walk (h : args.length = t.arity) {r : Except Fault String}
    (hw : walk t.leaves "" args = r.map fun text => .complete text []) : t.text args = r := by
  rw [walk_of_length h] at hw
  simp only [String.empty_append] at hw
  cases ht : t.text args with
  | error e =>
    rw [ht] at hw
    cases r with
    | error e' => cases hw; rfl
    | ok s => cases hw
  | ok s =>
    rw [ht] at hw
    cases r with
    | error e => cases hw
    | ok s' => cases hw; rfl

/-- The arguments of a joined format are those of its parts. -/
theorem length_append_join (hl : la.length = l.arity) (hr : ra.length = r.arity) (way : Spec.Joining) :
    (la ++ ra).length = (l.join way r).arity := by
  rw [List.length_append, hl, hr, arity]

/-- The text of a joined format is made of those of its parts; a fault of the left comes first. -/
theorem text_join (hl : la.length = l.arity) (hr : ra.length = r.arity) (way : Spec.Joining) :
    (l.join way r).text (la ++ ra) = l.text la >>= fun head => (r.text ra).map fun tail => head ++ tail := by
  refine text_of_walk (length_append_join hl hr way) ?_
  have hleft := walk_of_length hl ""
  have hne : walk l.leaves "" la ≠ .ok .waiting := by
    rw [hleft]
    cases l.text la <;> nofun
  rw [leaves, walk_append, walk_append_args hne, hleft]
  cases l.text la with
  | error e => rfl
  | ok head =>
    refine (walk_of_length hr ("" ++ head)).trans ?_
    rw [String.empty_append]
    cases r.text ra <;> rfl

/-- Concatenation is one way of joining. -/
theorem length_append_cat (hl : la.length = l.arity) (hr : ra.length = r.arity) : (la ++ ra).length = (l.cat r).arity :=
  length_append_join hl hr .function

theorem text_cat (hl : la.length = l.arity) (hr : ra.length = r.arity) :
    (l.cat r).text (la ++ ra) = l.text la >>= fun head => (r.text ra).map fun tail => head ++ tail :=
  text_join hl hr .function

theorem text_literal (s : String) : (literal s : Format (Except Fault)).text [] = .ok s := rfl

theorem text_placeholder (render : Renderer) (v : Value) : (placeholder render).text [v] = render v := by
  refine text_of_walk rfl ?_
  rw [leaves, walk]
  cases render v with
  | error e => rfl
  | ok s => exact congrArg (fun u => Except.ok (Reach.complete u [])) String.empty_append

/-- On exactly its arguments, a format is discharged to its text or to its fault. -/
theorem discharge_of_length (h : args.length = t.arity) :
    t.discharge .stepwise args = ((t.text args).map .text).mapError .fault := by
  rw [discharge_stepwise_eq_walk, walk_of_length h]
  cases t.text args with
  | error e => rfl
  | ok s => exact congrArg (fun u => Except.ok (Result.text u)) String.empty_append

/-- Between others, a format can be replaced by one that has the same text on its own arguments. -/
theorem discharge_between {m m' : Format (Except Fault)} {ma ma' : List Value} (hl : la.length = l.arity)
    (hr : ra.length = r.arity) (hm : ma.length = m.arity) (hm' : ma'.length = m'.arity) (h : m.text ma = m'.text ma') :
    ((l.cat m).cat r).discharge .stepwise (la ++ ma ++ ra) = ((l.cat m').cat r).discharge .stepwise (la ++ ma' ++ ra) := by
  have hleft : (la ++ ma).length = (l.cat m).arity := length_append_cat hl hm
  have hleft' : (la ++ ma').length = (l.cat m').arity := length_append_cat hl hm'
  rw [discharge_of_length (length_append_cat hleft hr), discharge_of_length (length_append_cat hleft' hr), text_cat hleft hr,
    text_cat hleft' hr, text_cat hl hm, text_cat hl hm', h]

/-! ## Formats side by side -/

/-- The formats one after the other with a separator between any two. -/
def separated (separator : String) : List (Format (Except Fault)) → Format (Except Fault)
  | [] => .literal ""
  | [t] => t
  | t :: u :: rest => t.cat ((literal separator).cat (separated separator (u :: rest)))

variable (separator : String) {parts : List (Format (Except Fault) × List Value)}

/-- Formats side by side take the arguments of all. -/
theorem arity_separated (h : ∀ p ∈ parts, p.2.length = p.1.arity) :
    (parts.map Prod.snd).flatten.length = (separated separator (parts.map Prod.fst)).arity := by
  induction parts with
  | nil => rfl
  | cons p rest ih =>
    have hp := h p List.mem_cons_self
    have hrest := ih fun q hq => h q (List.mem_cons_of_mem _ hq)
    cases rest with
    | nil => simpa [separated] using hp
    | cons q rest =>
      simp only [List.map_cons, List.flatten_cons, List.length_append, separated, cat, arity, Nat.zero_add] at hrest ⊢
      rw [hp, hrest]

/-- Formats side by side have no placeholders but their own. -/
theorem mem_placeholders_separated {ts : List (Format (Except Fault))} {p : Renderer}
    (h : p ∈ (separated separator ts).placeholders) : ∃ t ∈ ts, p ∈ t.placeholders := by
  induction ts with
  | nil => cases h
  | cons t rest ih =>
    cases rest with
    | nil => exact ⟨t, List.mem_cons_self, h⟩
    | cons u rest =>
      rw [placeholders, separated, cat, cat, leaves, leaves, leaves, List.filterMap_append, List.filterMap_append] at h
      rcases List.mem_append.1 h with ht | hrest
      · exact ⟨t, List.mem_cons_self, ht⟩
      · obtain ⟨v, hv, hp⟩ := ih hrest
        exact ⟨v, List.mem_cons_of_mem _ hv, hp⟩

/-- The text of formats side by side: their texts with the separator between them, or the first fault among them. -/
theorem text_separated (h : ∀ p ∈ parts, p.2.length = p.1.arity) :
    (separated separator (parts.map Prod.fst)).text (parts.map Prod.snd).flatten =
      (parts.mapM fun p => text p.1 p.2).map separator.intercalate := by
  induction parts with
  | nil => exact text_literal ""
  | cons p rest ih =>
    have hp := h p List.mem_cons_self
    have hrest : ∀ q ∈ rest, q.2.length = q.1.arity := fun q hq => h q (List.mem_cons_of_mem _ hq)
    rw [List.mapM_cons]
    cases rest with
    | nil =>
      simp only [List.map_cons, List.map_nil, separated, List.flatten_cons, List.flatten_nil, List.append_nil]
      cases p.1.text p.2 with
      | error e => rfl
      | ok s => exact congrArg Except.ok String.intercalate_singleton.symm
    | cons q rest =>
      -- The separator is a format of its own, with no arguments.
      have hsep : ([] : List Value).length = (literal separator : Format (Except Fault)).arity := rfl
      have hlen := arity_separated separator hrest
      have hwhole := text_cat hp (length_append_cat hsep hlen)
      rw [text_cat hsep hlen, text_literal, ih hrest] at hwhole
      refine hwhole.trans ?_
      cases p.1.text p.2 with
      | error e => rfl
      | ok s =>
        cases hm : (q :: rest).mapM fun p => text p.1 p.2 with
        | error e => rfl
        | ok texts =>
          have hne : texts ≠ [] := by
            rw [List.mapM_cons] at hm
            obtain ⟨u, -, hm⟩ := bind_eq_ok_iff.1 hm
            obtain ⟨us, -, hm⟩ := bind_eq_ok_iff.1 hm
            cases hm
            exact List.cons_ne_nil u us
          refine congrArg Except.ok ?_
          rw [String.intercalate_cons_of_ne_nil hne, String.append_assoc]

end Format

/-! ## One placeholder that nests -/

/-- Steps that come to the same on the images of the elements. -/
theorem mapM_map_congr {ε α β γ : Type} {xs : List α} {g : α → β} {step : β → Except ε γ} {step' : α → Except ε γ}
    (h : ∀ x ∈ xs, step (g x) = step' x) : (xs.map g).mapM step = xs.mapM step' := by
  induction xs with
  | nil => rfl
  | cons x xs ih =>
    rw [List.map_cons, List.mapM_cons, List.mapM_cons, h x List.mem_cons_self, ih fun y hy => h y (List.mem_cons_of_mem _ hy)]

namespace Renderer

variable {inner : Format (Except Fault)} (separator : String)

/-- A list of rows is rendered to the texts of the inner format on the rows, with the separator between them. -/
theorem nested_rows (inner : Format (Except Fault)) (rows : List (List Value)) :
    nested inner separator (.list (rows.map .list)) = (rows.mapM inner.text).map separator.intercalate := by
  have hrows : (rows.map Value.list).mapM Value.list? = .ok rows := by
    have hpure : rows.mapM (pure : List Value → Except Fault (List Value)) = pure (rows.map id) := List.mapM_pure
    rw [List.map_id] at hpure
    exact (mapM_map_congr fun _ _ => rfl).trans hpure
  have hnested : nested inner separator (.list (rows.map .list)) =
      (rows.map Value.list).mapM Value.list? >>= fun rows => rows.mapM inner.text >>= fun texts =>
        pure (separator.intercalate texts) := rfl
  rw [hnested, hrows]
  change rows.mapM inner.text >>= _ = _
  cases rows.mapM inner.text <;> rfl

/-- Formats side by side that do on the rows what the inner format does give the same text, on the rows one after the other. -/
theorem nested_eq_separated (parts : List Value → Format (Except Fault) × List Value) {rows : List (List Value)}
    (h : ∀ row ∈ rows, (parts row).2.length = (parts row).1.arity ∧ (parts row).1.text (parts row).2 = inner.text row) :
    (rows.flatMap fun row => (parts row).2).length = (Format.separated separator (rows.map fun row => (parts row).1)).arity ∧
      (Format.separated separator (rows.map fun row => (parts row).1)).text (rows.flatMap fun row => (parts row).2) =
        nested inner separator (.list (rows.map .list)) := by
  have hlengths : ∀ p ∈ rows.map parts, p.2.length = p.1.arity := by
    intro p hp
    obtain ⟨row, hrow, rfl⟩ := List.mem_map.1 hp
    exact (h row hrow).1
  have harity := Format.arity_separated separator hlengths
  have htext := Format.text_separated separator hlengths
  rw [List.map_map, List.map_map] at harity htext
  rw [mapM_map_congr fun row hrow => (h row hrow).2] at htext
  rw [nested_rows separator, List.flatMap_def]
  exact ⟨harity, htext⟩

/-- In particular, the inner format itself does. -/
theorem nested_eq_replicate {rows : List (List Value)} (h : ∀ row ∈ rows, row.length = inner.arity) :
    rows.flatten.length = (Format.separated separator (List.replicate rows.length inner)).arity ∧
      (Format.separated separator (List.replicate rows.length inner)).text rows.flatten =
        nested inner separator (.list (rows.map .list)) := by
  have hparts := nested_eq_separated separator (fun row => (inner, row)) fun row hrow => ⟨h row hrow, rfl⟩
  rw [List.map_const', List.flatMap_id'] at hparts
  exact hparts

end Renderer

/-! ## Formats that nest to any depth -/

/-- A format some of whose placeholders nest other formats. -/
inductive Nesting where
  | literal (text : String)
  | placeholder (render : Renderer)
  | join (left : Nesting) (way : Spec.Joining) (right : Nesting)
  /-- A placeholder for a list of rows of arguments for the inner format, with a separator between their texts. -/
  | nested (inner : Nesting) (separator : String)

/-- The values that a value lists. -/
def Value.items : Value → List Value
  | .list vs => vs
  | _ => []

namespace Nesting

/-- The format as it stands: whatever nests is a placeholder with a renderer of its own. -/
def format : Nesting → Format (Except Fault)
  | literal text => .literal text
  | placeholder render => .placeholder render
  | join left way right => left.format.join way right.format
  | nested inner separator => .placeholder (Renderer.nested inner.format separator)

/-- The arguments are complete: one for each placeholder, and for one that nests a list of rows that are complete for its inner
format. -/
def Complete : Nesting → List Value → Prop
  | literal _, args => args = []
  | placeholder _, args => ∃ v, args = [v]
  | join left _ right, args => ∃ la ra, args = la ++ ra ∧ left.Complete la ∧ right.Complete ra
  | nested inner _, args => ∃ rows : List (List Value), args = [.list (rows.map .list)] ∧ ∀ row ∈ rows, inner.Complete row

/-- The flat format for the arguments: in place of every placeholder that nests it has flat copies of the inner format, one for
each row, with the separator between them. -/
def spliced : Nesting → List Value → Format (Except Fault)
  | literal text, _ => .literal text
  | placeholder render, _ => .placeholder render
  | join left way right, args =>
    (left.spliced (args.take left.format.arity)).join way (right.spliced (args.drop left.format.arity))
  | nested inner separator, args =>
    .separated separator ((args.flatMap Value.items).map fun row => inner.spliced row.items)

/-- The arguments of the flat format: rows stand where the list of them stood. -/
def flattened : Nesting → List Value → List Value
  | literal _, args => args
  | placeholder _, args => args
  | join left _ right, args =>
    left.flattened (args.take left.format.arity) ++ right.flattened (args.drop left.format.arity)
  | nested inner _, args => (args.flatMap Value.items).flatMap fun row => inner.flattened row.items

/-- The renderers of the placeholders that do not nest. -/
def renderers : Nesting → List Renderer
  | literal _ => []
  | placeholder render => [render]
  | join left _ right => left.renderers ++ right.renderers
  | nested inner _ => inner.renderers

/-- Complete arguments are as many as the format has placeholders. -/
theorem Complete.length {d : Nesting} {args : List Value} (h : d.Complete args) : args.length = d.format.arity := by
  induction d generalizing args with
  | literal text => cases h; rfl
  | placeholder render => obtain ⟨v, rfl⟩ := h; rfl
  | join left way right ihl ihr =>
    obtain ⟨la, ra, rfl, hla, hra⟩ := h
    exact Format.length_append_join (ihl hla) (ihr hra) way
  | nested inner separator => obtain ⟨rows, rfl, -⟩ := h; rfl

/-- The flat format takes the flat arguments and gives the same text or fault. -/
theorem Complete.splice {d : Nesting} {args : List Value} (h : d.Complete args) :
    (d.flattened args).length = (d.spliced args).arity ∧
      (d.spliced args).text (d.flattened args) = d.format.text args := by
  induction d generalizing args with
  | literal text =>
    cases h
    exact ⟨rfl, rfl⟩
  | placeholder render =>
    obtain ⟨v, rfl⟩ := h
    exact ⟨rfl, rfl⟩
  | join left way right ihl ihr =>
    obtain ⟨la, ra, rfl, hla, hra⟩ := h
    obtain ⟨hllen, hltext⟩ := ihl hla
    obtain ⟨hrlen, hrtext⟩ := ihr hra
    simp only [flattened, spliced, format, ← hla.length, List.take_left, List.drop_left]
    refine ⟨Format.length_append_join hllen hrlen way, ?_⟩
    rw [Format.text_join hllen hrlen, Format.text_join hla.length hra.length, hltext, hrtext]
  | nested inner separator ih =>
    obtain ⟨rows, rfl, hrows⟩ := h
    have hitems : ([.list (rows.map .list)] : List Value).flatMap Value.items = rows.map .list := List.append_nil _
    simp only [flattened, spliced, format, hitems, List.map_map, List.flatMap_map, Format.text_placeholder]
    exact Renderer.nested_eq_separated separator (fun row => (inner.spliced row, inner.flattened row)) fun row hrow =>
      ih (hrows row hrow)

/-- A flat format has only renderers of placeholders that do not nest. -/
theorem spliced_placeholders (d : Nesting) (args : List Value) : ∀ p ∈ (d.spliced args).placeholders, p ∈ d.renderers := by
  induction d generalizing args with
  | literal text => nofun
  | placeholder render => exact fun p hp => hp
  | join left way right ihl ihr =>
    intro p hp
    rw [Format.placeholders, spliced, Format.leaves, List.filterMap_append] at hp
    exact List.mem_append.2 ((List.mem_append.1 hp).imp (ihl _ p) (ihr _ p))
  | nested inner separator ih =>
    intro p hp
    obtain ⟨t, ht, hpt⟩ := Format.mem_placeholders_separated separator hp
    obtain ⟨row, -, rfl⟩ := List.mem_map.1 ht
    exact ih row.items p hpt

/-- Nesting is splicing. Between a left and a right format, a placeholder that discharges an inner format on each row of a list is
discharged like copies of the inner format, one for each row, with the separator between them, and with the rows one after the
other in place of their list: to the same text or the same first fault.

Formats that nest to any depth can be spliced all the way down: the flat format has no placeholder that nests, and on the flat
arguments it is discharged alike. -/
theorem discharge_spliced :
    (∀ (left inner right : Format (Except Fault)) (separator : String) (la ra : List Value) (rows : List (List Value)),
      la.length = left.arity → ra.length = right.arity → (∀ row ∈ rows, row.length = inner.arity) →
      ((left.cat (.placeholder (Renderer.nested inner separator))).cat right).discharge .stepwise
          (la ++ [.list (rows.map .list)] ++ ra) =
        ((left.cat (.separated separator (List.replicate rows.length inner))).cat right).discharge .stepwise
          (la ++ rows.flatten ++ ra)) ∧
    ∀ (d : Nesting) (args : List Value), d.Complete args →
      d.format.discharge .stepwise args = (d.spliced args).discharge .stepwise (d.flattened args) ∧
      ∀ p ∈ (d.spliced args).placeholders, p ∈ d.renderers := by
  constructor
  · intro left inner right separator la ra rows hl hr hrows
    obtain ⟨hlen, htext⟩ := Renderer.nested_eq_replicate separator hrows
    exact Format.discharge_between hl hr rfl hlen ((Format.text_placeholder _ _).trans htext.symm)
  · intro d args h
    obtain ⟨hlen, htext⟩ := h.splice
    rw [Format.discharge_of_length h.length, Format.discharge_of_length hlen, htext]
    exact ⟨rfl, d.spliced_placeholders args⟩

/-- Lists of numbers in brackets, with commas in each and semicolons between them. Both the nested and the flat format give the
text of three numbers, and where the second is negative both give its fault; so they do on a single level between two numbers. -/
theorem discharge_spliced_two_levels :
    let brackets : Nesting :=
      .join (.join (.literal "[") .sum (.nested (.placeholder Renderer.nonNegative) ",")) .method (.literal "]")
    let row (ns : List Int) : List Value := [.list ((ns.map fun i => [.int i]).map .list)]
    let rows (i : Int) : List Value := [.list ([row [1, i], row [3]].map .list)]
    let d : Nesting := .nested brackets ";"
    let number : Format (Except Fault) := .placeholder Combinator.int.render
    d.flattened (rows 2) = [.int 1, .int 2, .int 3] ∧
    d.format.discharge .stepwise (rows 2) = .ok (.text "[1,2];[3]") ∧
    (d.spliced (rows 2)).discharge .stepwise [.int 1, .int 2, .int 3] = .ok (.text "[1,2];[3]") ∧
    d.format.discharge .stepwise (rows (-2)) = .error (.fault (.panic "negative: -2")) ∧
    ((number.cat (.placeholder (Renderer.nested number "+"))).cat number).discharge .stepwise
      ([.int 7] ++ [.list ([[.int 1], [.int 2]].map .list)] ++ [.int 9]) = .ok (.text "71+29") := by
  intro brackets row rows d number
  obtain ⟨hone, hall⟩ := discharge_spliced
  have hrow (ns : List Int) : brackets.Complete (row ns) := by
    refine ⟨row ns, [], rfl, ⟨[], row ns, rfl, rfl, _, rfl, fun r hr => ?_⟩, rfl⟩
    obtain ⟨i, -, rfl⟩ := List.mem_map.1 hr
    exact ⟨.int i, rfl⟩
  have hcomplete (i : Int) : d.Complete (rows i) := by
    refine ⟨_, rfl, fun r hr => ?_⟩
    rcases List.mem_cons.1 hr with rfl | hr
    · exact hrow [1, i]
    · rw [List.mem_singleton.1 hr]
      exact hrow [3]
  have hrows : ∀ r ∈ ([[.int 1], [.int 2]] : List (List Value)), r.length = number.arity := by
    intro r hr
    rcases List.mem_cons.1 hr with rfl | hr
    · rfl
    · rw [List.mem_singleton.1 hr]
      rfl
  have hflat := (hall d (rows 2) (hcomplete 2)).1
  exact ⟨rfl, hflat.trans rfl, rfl, (hall d (rows (-2)) (hcomplete (-2))).1.trans rfl,
    (hone number number number "+" [.int 7] [.int 9] [[.int 1], [.int 2]] rfl rfl hrows).trans rfl⟩

end Nesting

end TypedFormat

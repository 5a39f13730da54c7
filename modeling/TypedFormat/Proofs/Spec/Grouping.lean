import TypedFormat.Spec.Basic

/-!
# Grouping specifications

Specifications can be concatenated one after the other when each of them is run with callbacks whose results are what the next
one gives (`Pieces`). The brackets can be put in many ways, and each concatenation can be written in three (`Grouping`). All
groupings of the same pieces are the same specification (`Grouping.spec_eq_of_pieces_eq`).

Nothing is assumed about the pieces. Any function of the callback makes one: it may call the callback never, once or many
times, and do with the results what it likes. Results are of any type, so a piece can also fail or take arguments.

`Spec.cat_laws` collects what concatenation does to arbitrary specifications: association, the empty literal as unit, and the
fusion of literals anywhere in a sequence.
-/

namespace TypedFormat

universe u

/-- Specifications one after the other: what the callback of each gives is what the next one gives when it is run. -/
inductive Pieces : Type u → Type u → Type (u + 1) where
  | nil {R : Type u} : Pieces R R
  | cons {F G R : Type u} (first : Spec G F) (rest : Pieces R G) : Pieces R F

/-- A way to concatenate specifications: where the brackets are, and how each concatenation is written. -/
inductive Grouping : Type u → Type u → Type (u + 1) where
  | piece {F R : Type u} (s : Spec R F) : Grouping R F
  | join {F G R : Type u} (left : Grouping G F) (way : Spec.Joining) (right : Grouping R G) : Grouping R F

namespace Pieces

/-- The pieces followed by others. -/
def append {F G R : Type u} : Pieces G F → Pieces R G → Pieces R F
  | nil, qs => qs
  | cons s ps, qs => cons s (ps.append qs)

/-- The pieces concatenated from the right. Without any there is no text. -/
def spec {F R : Type u} : Pieces R F → Spec R F
  | nil => Spec.literal ""
  | cons s ps => s.cat ps.spec

variable {F G R : Type u}

/-- Two sequences one after the other are the concatenation of both. -/
theorem spec_append (ps : Pieces G F) (qs : Pieces R G) : (ps.append qs).spec = ps.spec.cat qs.spec := by
  induction ps with
  | nil => exact (Spec.literal_empty_cat qs.spec).symm
  | cons s ps ih => rw [append, spec, spec, ih, Spec.cat_assoc]

/-- Two literals side by side are one, whatever stands before and after them. -/
theorem spec_fuse (front : Pieces G F) (a b : String) (back : Pieces R G) :
    (front.append (.cons (Spec.literal a) (.cons (Spec.literal b) back))).spec =
      (front.append (.cons (Spec.literal (a ++ b)) back)).spec := by
  rw [spec_append, spec_append, spec, spec, spec, ← Spec.cat_assoc (Spec.literal a), Spec.literal_cat_literal]

end Pieces

namespace Grouping

/-- The specification that the grouping makes. -/
def spec {F R : Type u} : Grouping R F → Spec R F
  | piece s => s
  | join left way right => left.spec.join way right.spec

/-- The specifications that are grouped, from left to right. -/
def pieces {F R : Type u} : Grouping R F → Pieces R F
  | piece s => .cons s .nil
  | join left _ right => left.pieces.append right.pieces

variable {F G R : Type u}

/-- A grouping makes what its pieces make when they are concatenated from the right. -/
theorem spec_eq_spec_pieces (g : Grouping R F) : g.spec = g.pieces.spec := by
  induction g with
  | piece s => exact (Spec.cat_literal_empty s).symm
  | join left way right ihl ihr => rw [spec, pieces, Spec.join_eq_cat, Pieces.spec_append, ihl, ihr]

/-- Groupings of the same pieces make the same specification. -/
theorem spec_eq_of_pieces_eq {g h : Grouping R F} (hp : g.pieces = h.pieces) : g.spec = h.spec := by
  rw [spec_eq_spec_pieces, spec_eq_spec_pieces, hp]

/-- Groupings that differ in two literals side by side, one of them having both as one, make the same specification. -/
theorem spec_eq_of_fuse {g h : Grouping R F} {front : Pieces G F} {a b : String} {back : Pieces R G}
    (hg : g.pieces = front.append (.cons (Spec.literal a) (.cons (Spec.literal b) back)))
    (hh : h.pieces = front.append (.cons (Spec.literal (a ++ b)) back)) : g.spec = h.spec := by
  rw [spec_eq_spec_pieces, spec_eq_spec_pieces, hg, hh, Pieces.spec_fuse]

end Grouping

/-- The laws of concatenation, for specifications made from any functions and for all callbacks. Concatenation is
associative; so all groupings of the same pieces agree, run with any callback or discharged. The empty literal is a unit on
both sides. Two literals side by side, wherever they stand among other pieces and however all of them are grouped, are the
literal of both texts. -/
theorem Spec.cat_laws :
    (∀ {F G H R : Type u} (x : Spec G F) (y : Spec H G) (z : Spec R H) (k : String → R),
      ((x.cat y).cat z).run k = (x.cat (y.cat z)).run k) ∧
    (∀ {F R : Type u} (g h : Grouping R F), g.pieces = h.pieces → ∀ k, g.spec.run k = h.spec.run k) ∧
    (∀ {F : Type} (g h : Grouping String F), g.pieces = h.pieces → g.spec.sprintf = h.spec.sprintf) ∧
    (∀ {F R : Type u} (x : Spec R F) (k : String → R),
      ((literal "").cat x).run k = x.run k ∧ (x.cat (literal "")).run k = x.run k) ∧
    (∀ {F G R : Type u} (front : Pieces G F) (a b : String) (back : Pieces R G) (g h : Grouping R F),
      g.pieces = front.append (.cons (literal a) (.cons (literal b) back)) →
      h.pieces = front.append (.cons (literal (a ++ b)) back) → ∀ k, g.spec.run k = h.spec.run k) ∧
    (∀ {F G : Type} (front : Pieces G F) (a b : String) (back : Pieces String G) (g h : Grouping String F),
      g.pieces = front.append (.cons (literal a) (.cons (literal b) back)) →
      h.pieces = front.append (.cons (literal (a ++ b)) back) → g.spec.sprintf = h.spec.sprintf) := by
  refine ⟨fun x y z k => ?_, fun g h hp k => ?_, fun g h hp => ?_, fun x k => ⟨?_, ?_⟩, fun front a b back g h hg hh k => ?_,
    fun front a b back g h hg hh => ?_⟩
  · rw [cat_assoc]
  · rw [Grouping.spec_eq_of_pieces_eq hp]
  · rw [Grouping.spec_eq_of_pieces_eq hp]
  · rw [literal_empty_cat]
  · rw [cat_literal_empty]
  · rw [Grouping.spec_eq_of_fuse hg hh]
  · rw [Grouping.spec_eq_of_fuse hg hh]

/-- Three pieces that are not made of literals and placeholders: one calls its callback twice and adds up the results, one
measures its callback's result, and one never calls it. The first two stand around literals. -/
theorem Spec.cat_laws_callback_twice :
    let twice : Spec Nat String := ⟨fun k => toString (k "x" + k "yz")⟩
    let measured : Spec String Nat := ⟨fun k => (k "!").length⟩
    let never : Spec String String := ⟨fun _ => "never"⟩
    let g : Grouping String String := .join (.join (.piece twice) .sum (.piece (literal "-")))
      .method (.join (.piece (literal "é")) .function (.piece measured))
    let h : Grouping String String := .join (.piece twice)
      .function (.join (.join (.piece (literal "-")) .method (.piece (literal "é"))) .sum (.piece measured))
    let fused : Grouping String String := .join (.piece twice) .sum (.join (.piece (literal "-é")) .function (.piece measured))
    (∀ k, g.spec.run k = h.spec.run k) ∧ g.spec.sprintf = h.spec.sprintf ∧ g.spec.sprintf = fused.spec.sprintf ∧
      fused.spec.sprintf = "9" ∧
      ∀ k, (Grouping.join fused .sum (.piece never)).spec.run k = (Grouping.join g .sum (.piece never)).spec.run k := by
  intro twice measured never g h fused
  have hgh : g.pieces = h.pieces := rfl
  have hg : g.pieces =
      Pieces.append (.cons twice .nil) (.cons (literal "-") (.cons (literal "é") (.cons measured .nil))) := rfl
  have hf : fused.pieces = Pieces.append (.cons twice .nil) (.cons (literal ("-" ++ "é")) (.cons measured .nil)) := rfl
  have hgn : (Grouping.join g .sum (.piece never)).pieces =
      Pieces.append (.cons twice .nil) (.cons (literal "-") (.cons (literal "é") (.cons measured (.cons never .nil)))) := rfl
  have hfn : (Grouping.join fused .sum (.piece never)).pieces =
      Pieces.append (.cons twice .nil) (.cons (literal ("-" ++ "é")) (.cons measured (.cons never .nil))) := rfl
  obtain ⟨-, hrun, hsprintf, -, hfuse, hfuseSprintf⟩ := Spec.cat_laws.{0}
  exact ⟨hrun g h hgh, hsprintf g h hgh, hfuseSprintf _ _ _ _ g fused hg hf, by decide,
    fun k => (hfuse _ _ _ _ _ _ hgn hfn k).symm⟩

end TypedFormat

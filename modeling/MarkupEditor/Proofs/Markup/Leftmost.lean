import MarkupEditor.Proofs.Markup.Rewriting

/-!
# Leftmost pieces

An inline step rewrites the leftmost piece of its construct. Said without the scan: the piece stands
behind a front, and no piece starts within that front. Either there is such a piece, and the step
changes it and nothing else, or the text holds no piece and the step keeps it.
-/

namespace MarkupEditor.Markup

/-- The recogniser reads a piece behind `front`, and none that starts further left. -/
structure Recogniser.ReadsFirst (recognise : Recogniser) (text front html behind : Text) :
    Prop where
  read : ∃ rest, text = front ++ rest ∧ recognise rest = some (html, behind)
  leftmost : ∀ before rest, text = before ++ rest → before.length < front.length →
    recognise rest = none

namespace Recogniser

variable {recognise : Recogniser} {text front html behind : Text} {c : Char}

theorem readsFirst_nil (hread : recognise text = some (html, behind)) :
    recognise.ReadsFirst text [] html behind where
  read := ⟨text, rfl, hread⟩
  leftmost _ _ _ hlt := absurd hlt (Nat.not_lt_zero _)

theorem readsFirst_cons_iff :
    recognise.ReadsFirst (c :: text) (c :: front) html behind ↔
      recognise (c :: text) = none ∧ recognise.ReadsFirst text front html behind := by
  constructor
  · intro hreads
    refine ⟨hreads.leftmost [] _ rfl (Nat.zero_lt_succ _), ?_, ?_⟩
    · obtain ⟨rest, htext, hread⟩ := hreads.read
      exact ⟨rest, (List.cons.inj htext).2, hread⟩
    · intro before rest htext hlt
      exact hreads.leftmost (c :: before) rest (congrArg (c :: ·) htext) (Nat.succ_lt_succ hlt)
  · rintro ⟨hnone, hreads⟩
    constructor
    · obtain ⟨rest, htext, hread⟩ := hreads.read
      exact ⟨rest, congrArg (c :: ·) htext, hread⟩
    · intro before rest htext hlt
      cases before with
      | nil =>
          rw [List.nil_append] at htext
          rwa [← htext]
      | cons d before =>
          exact hreads.leftmost before rest (List.cons.inj htext).2 (Nat.lt_of_succ_lt_succ hlt)

namespace ReadsFirst

theorem read_of_nil (hreads : recognise.ReadsFirst text [] html behind) :
    recognise text = some (html, behind) := by
  obtain ⟨rest, rfl, hread⟩ := hreads.read
  exact hread

theorem eq_nil_of_read {read : Text × Text} (hreads : recognise.ReadsFirst text front html behind)
    (hread : recognise text = some read) : front = [] := by
  by_contra hne
  have hnone := hreads.leftmost [] text rfl (List.length_pos_iff.mpr hne)
  rw [hread] at hnone
  contradiction

/-- There is one leftmost piece at most. -/
theorem unique {otherFront otherHtml otherBehind : Text}
    (hreads : recognise.ReadsFirst text front html behind)
    (hother : recognise.ReadsFirst text otherFront otherHtml otherBehind) :
    front = otherFront ∧ html = otherHtml ∧ behind = otherBehind := by
  induction front generalizing text otherFront with
  | nil =>
      have hread := hreads.read_of_nil
      obtain rfl := hother.eq_nil_of_read hread
      obtain ⟨rfl, rfl⟩ := Prod.mk.inj (Option.some.inj (hread.symm.trans hother.read_of_nil))
      exact ⟨rfl, rfl, rfl⟩
  | cons c front ih =>
      cases otherFront with
      | nil => exact absurd (hreads.eq_nil_of_read hother.read_of_nil) (List.cons_ne_nil c front)
      | cons d otherFront =>
          obtain ⟨rest, rfl, -⟩ := hreads.read
          obtain ⟨otherRest, heq, -⟩ := hother.read
          obtain ⟨rfl, -⟩ := List.cons.inj heq
          obtain ⟨rfl, hsame⟩ :=
            ih (readsFirst_cons_iff.mp hreads).2 (readsFirst_cons_iff.mp hother).2
          exact ⟨rfl, hsame⟩

end ReadsFirst

/-- With `rest` behind the text, the recogniser reads nothing that starts in the text. -/
def Passes (recognise : Recogniser) (text rest : Text) : Prop :=
  ∀ suffix, suffix <:+ text → suffix ≠ [] → recognise (suffix ++ rest) = none

/-- A leftmost piece does not start in a text that the recogniser passes. -/
theorem Passes.exists_front {rest : Text} (hpasses : recognise.Passes text rest)
    (hreads : recognise.ReadsFirst (text ++ rest) front html behind) :
    ∃ inner, front = text ++ inner ∧ recognise.ReadsFirst rest inner html behind := by
  induction text generalizing front with
  | nil => exact ⟨front, rfl, hreads⟩
  | cons c text ih =>
      have hnone := hpasses (c :: text) List.suffix_rfl (List.cons_ne_nil _ _)
      cases front with
      | nil =>
          rw [hreads.read_of_nil] at hnone
          contradiction
      | cons d front =>
          obtain ⟨after, hafter, -⟩ := hreads.read
          obtain ⟨rfl, -⟩ := List.cons.inj hafter
          obtain ⟨-, hrest⟩ := readsFirst_cons_iff.mp hreads
          obtain ⟨inner, rfl, hinner⟩ :=
            ih (fun suffix hsuffix => hpasses suffix (hsuffix.trans (List.suffix_cons _ _))) hrest
          exact ⟨inner, rfl, hinner⟩

theorem Passes.rewriteFirst_append {rest : Text} (hpasses : recognise.Passes text rest) :
    rewriteFirst recognise (text ++ rest) = text ++ rewriteFirst recognise rest := by
  induction text with
  | nil => rfl
  | cons c text ih =>
      have hnone := hpasses (c :: text) List.suffix_rfl (List.cons_ne_nil _ _)
      have hrest := ih fun suffix hsuffix => hpasses suffix (hsuffix.trans (List.suffix_cons _ _))
      rw [List.cons_append] at hnone
      rw [List.cons_append, rewriteFirst, hnone, hrest]
      rfl

/-- The leftmost piece as it is computed, place by place. -/
theorem readsFirst_iff_drop :
    recognise.ReadsFirst text front html behind ↔
      front <+: text ∧ recognise (text.drop front.length) = some (html, behind) ∧
        ∀ place < front.length, recognise (text.drop place) = none := by
  constructor
  · intro hreads
    obtain ⟨rest, rfl, hread⟩ := hreads.read
    refine ⟨List.prefix_append front rest, by rwa [List.drop_left], ?_⟩
    intro place hplace
    apply hreads.leftmost ((front ++ rest).take place) _ (List.take_append_drop _ _).symm
    exact Nat.lt_of_le_of_lt (List.length_take_le _ _) hplace
  · rintro ⟨⟨rest, rfl⟩, hread, hnone⟩
    rw [List.drop_left] at hread
    refine ⟨⟨rest, rfl, hread⟩, ?_⟩
    intro before after heq hlt
    have hafter := hnone before.length hlt
    rwa [heq, List.drop_left] at hafter

instance : Decidable (recognise.ReadsFirst text front html behind) :=
  decidable_of_iff _ readsFirst_iff_drop.symm

/-- A text in which no piece is leftmost is kept. -/
theorem readsFirst_or_eq (recognise : Recogniser) (text : Text) :
    (∃ front html behind, recognise.ReadsFirst text front html behind) ∨
      rewriteFirst recognise text = text := by
  induction text with
  | nil => exact Or.inr rfl
  | cons c text ih =>
      cases hread : recognise (c :: text) with
      | some read => exact Or.inl ⟨[], read.1, read.2, readsFirst_nil hread⟩
      | none =>
          rcases ih with ⟨front, html, behind, hreads⟩ | hsame
          · exact Or.inl ⟨c :: front, html, behind, readsFirst_cons_iff.mpr ⟨hread, hreads⟩⟩
          · right
            simp [rewriteFirst, hread, hsame]

namespace Inline

variable {Piece : Text → Text → Prop}

theorem eq_none_nil (hinline : recognise.Inline Piece) : recognise [] = none := by
  rw [Option.eq_none_iff_forall_ne_some]
  rintro ⟨html, behind⟩ hread
  obtain ⟨piece, hpiece, heq⟩ := hinline.eq_some_iff.mp hread
  obtain ⟨first, body, last, rfl, -⟩ := hinline.delimited hpiece
  simp at heq

theorem exists_piece (hinline : recognise.Inline Piece)
    (hreads : recognise.ReadsFirst text front html behind) :
    ∃ piece, Piece piece html ∧ text = front ++ (piece ++ behind) := by
  obtain ⟨rest, rfl, hread⟩ := hreads.read
  obtain ⟨piece, hpiece, rfl⟩ := hinline.eq_some_iff.mp hread
  exact ⟨piece, hpiece, rfl⟩

/-- The step changes the leftmost piece and nothing else. -/
theorem rewriteFirst_of_readsFirst (hinline : recognise.Inline Piece)
    (hreads : recognise.ReadsFirst text front html behind) :
    rewriteFirst recognise text = front ++ (html ++ behind) := by
  induction front generalizing text with
  | nil =>
      obtain ⟨rest, htext, hread⟩ := hreads.read
      rw [List.nil_append] at htext
      subst htext
      cases text with
      | nil => simp [hinline.eq_none_nil] at hread
      | cons c text => simp [rewriteFirst, hread]
  | cons c front ih =>
      obtain ⟨rest, rfl, -⟩ := hreads.read
      rw [List.cons_append] at hreads
      obtain ⟨hnone, hrest⟩ := readsFirst_cons_iff.mp hreads
      rw [List.cons_append, rewriteFirst, hnone, ih hrest]
      rfl

end Inline

end Recogniser

end MarkupEditor.Markup

import MarkupEditor.Proofs.Command.Rendering
import MarkupEditor.Proofs.Markup.Nesting
import MarkupEditor.Proofs.Markup.Retagging

/-!
# Flat lines

A flat line is made of plain characters and of whole parts with bare values: no markup in markup,
and no mark by itself. Each of the five steps keeps it flat: the step reads one part and leaves tags
and plain characters in its place. Only the stars that the bold step has left are read otherwise, by
the italic step, and they are plain characters from there on. So nothing that a step reads holds a
tag, and flat lines are untorn.
-/

namespace MarkupEditor.Markup

/-! ### Parts -/

/-- A value that markup may stand around, and in which nothing is read. -/
structure Bare (value : Text) : Prop where
  ne_nil : value ≠ []
  newline_not_mem : '\n' ∉ value
  tag_not_mem : '<' ∉ value
  disjoint : value.Disjoint inlineMarks

instance (value : Text) : Decidable (Bare value) :=
  decidable_of_iff (value ≠ [] ∧ '\n' ∉ value ∧ '<' ∉ value ∧ value.Disjoint inlineMarks)
    ⟨fun ⟨hne, hnewline, htag, hmarks⟩ => ⟨hne, hnewline, htag, hmarks⟩,
      fun hvalue => ⟨hvalue.ne_nil, hvalue.newline_not_mem, hvalue.tag_not_mem, hvalue.disjoint⟩⟩

/-- What stands on both sides of a bold, italic or code value. -/
def enclosers : List Text := ["**".toList, "_".toList, "\x60".toList]

/-- A whole tag without the marks, a value between two enclosers, or a reference. -/
inductive Part (marks : List Char) : Text → Prop
  | tag {inner : Text} (hopen : '<' ∉ inner) (hinner : inner.Disjoint marks) :
      Part marks ('<' :: (inner ++ ['>']))
  | enclosed {encloser value : Text} (hencloser : encloser ∈ enclosers) (hvalue : Bare value) :
      Part marks (encloser ++ (value ++ encloser))
  | reference {label target : Text} (hlabel : Bare label) (htarget : Bare target)
      (hclose : ')' ∉ target) :
      Part marks ('[' :: (label ++ ']' :: '(' :: (target ++ [')'])))

/-- A row of parts and of plain characters, none of which is a mark. -/
inductive Flat (marks : List Char) : Text → Prop
  | nil : Flat marks []
  | plain {c : Char} {rest : Text} (htag : c ≠ '<') (hmark : c ∉ marks) (hrest : Flat marks rest) :
      Flat marks (c :: rest)
  | part {text rest : Text} (htext : Part marks text) (hrest : Flat marks rest) :
      Flat marks (text ++ rest)

section Flat

variable {marks later : List Char} {text rest front value label target : Text} {c : Char}

theorem Part.mono (htext : Part marks text) (hsub : later ⊆ marks) : Part later text := by
  cases htext with
  | tag hopen hinner => exact .tag hopen (List.disjoint_of_subset_right hsub hinner)
  | enclosed hencloser hvalue => exact .enclosed hencloser hvalue
  | reference hlabel htarget hclose => exact .reference hlabel htarget hclose

/-- A part starts with a delimiter or a tag, and ends so. -/
theorem Part.ends (htext : Part marks text) :
    ∃ first body last, text = first :: (body ++ [last]) ∧
      first ∈ '<' :: inlineMarks ∧ last ∈ '>' :: ')' :: inlineMarks := by
  cases htext with
  | @tag inner hopen hinner => exact ⟨'<', inner, '>', rfl, by decide, by decide⟩
  | @enclosed encloser value hencloser hvalue =>
      simp only [enclosers, List.mem_cons, List.not_mem_nil, or_false] at hencloser
      rcases hencloser with rfl | rfl | rfl
      · exact ⟨'*', '*' :: (value ++ ['*']), '*', by simp, by decide, by decide⟩
      · exact ⟨'_', value, '_', rfl, by decide, by decide⟩
      · exact ⟨'\x60', value, '\x60', rfl, by decide, by decide⟩
  | @reference label target hlabel htarget hclose =>
      exact ⟨'[', label ++ ']' :: '(' :: target, ')', by simp, by decide, by decide⟩

theorem Part.getLast?_ne (htext : Part marks text) : text.getLast? ≠ some '!' := by
  obtain ⟨first, body, last, rfl, -, hlast⟩ := htext.ends
  rw [← List.cons_append, List.getLast?_concat]
  intro heq
  exact absurd (Option.some.inj heq ▸ hlast) (by decide)

namespace Flat

theorem of_part (htext : Part marks text) : Flat marks text := by
  have hflat := Flat.part htext .nil
  rwa [List.append_nil] at hflat

theorem of_disjoint (htag : '<' ∉ text) (hmarks : text.Disjoint marks) : Flat marks text := by
  induction text with
  | nil => exact .nil
  | cons c text ih =>
      rw [List.mem_cons, not_or] at htag
      obtain ⟨hc, htext⟩ := List.disjoint_cons_left.mp hmarks
      exact .plain (Ne.symm htag.1) hc (ih htag.2 htext)

theorem mono (htext : Flat marks text) (hsub : later ⊆ marks) : Flat later text := by
  induction htext with
  | nil => exact .nil
  | plain htag hmark hrest ih => exact .plain htag (fun hin => hmark (hsub hin)) ih
  | part hpart hrest ih => exact .part (hpart.mono hsub) ih

theorem append (htext : Flat marks text) (hrest : Flat marks rest) : Flat marks (text ++ rest) := by
  induction htext with
  | nil => exact hrest
  | plain htag hmark _ ih => exact .plain htag hmark ih
  | part hpart _ ih =>
      rw [List.append_assoc]
      exact .part hpart ih

/-- The tags of a flat text are whole. -/
theorem isSome_readTags (htext : Flat marks text) : (readTags text).isSome := by
  induction htext with
  | nil => rfl
  | @plain c rest htag hmark hrest ih => rwa [readTags, if_neg htag]
  | @part text rest hpart hrest ih =>
      cases hpart with
      | @tag inner hopen hinner =>
          have hattributes : '<' ∉ inner ++ ['>'] := by simp [hopen]
          rwa [List.cons_append, readTags_attributes hattributes (by simp), Option.isSome_map]
      | @enclosed encloser value hencloser hvalue =>
          have hplain : '<' ∉ encloser := by
            have hall : ∀ encloser ∈ enclosers, '<' ∉ encloser := by decide
            exact hall encloser hencloser
          rwa [readTags_append_of_not_mem (by simp [hplain, hvalue.tag_not_mem])]
      | @reference label target hlabel htarget hclose =>
          rwa [readTags_append_of_not_mem
            (by simp [hlabel.tag_not_mem, htarget.tag_not_mem])]

/-- A plain character in front may be left out. -/
theorem of_cons (htext : Flat marks (c :: rest)) (hc : c ∉ '<' :: inlineMarks) :
    Flat marks rest := by
  generalize hwhole : c :: rest = whole at htext
  cases htext with
  | nil => contradiction
  | plain htag hmark hrest =>
      obtain ⟨-, rfl⟩ := List.cons.inj hwhole
      exact hrest
  | part hpart hrest =>
      obtain ⟨first, body, last, rfl, hfirst, -⟩ := hpart.ends
      obtain ⟨rfl, -⟩ := List.cons.inj hwhole
      exact absurd hfirst hc

theorem of_append (htext : Flat marks (front ++ rest))
    (hfront : ∀ c ∈ front, c ∉ '<' :: inlineMarks) : Flat marks rest := by
  induction front with
  | nil => exact htext
  | cons c front ih =>
      obtain ⟨hc, hfront⟩ := List.forall_mem_cons.mp hfront
      exact ih (htext.of_cons hc) hfront

/-- A plain character at the end may be left out. -/
theorem of_concat (htext : Flat marks (front ++ [c])) (hc : c ∉ '>' :: ')' :: inlineMarks) :
    Flat marks front := by
  generalize hwhole : front ++ [c] = whole at htext
  induction htext generalizing front with
  | nil => simp at hwhole
  | @plain d rest htag hmark hrest ih =>
      cases front with
      | nil => exact .nil
      | cons first front =>
          obtain ⟨rfl, hrestEq⟩ := List.cons.inj hwhole
          exact .plain htag hmark (ih hrestEq)
  | @part text rest hpart hrest ih =>
      rcases List.eq_nil_or_concat' rest with rfl | ⟨more, last, rfl⟩
      · -- the part would end with the character
        obtain ⟨first, body, last, rfl, -, hlast⟩ := hpart.ends
        rw [List.append_nil, ← List.cons_append] at hwhole
        obtain ⟨-, hsame⟩ := List.append_inj' hwhole rfl
        exact absurd (List.singleton_inj.mp hsame ▸ hlast) hc
      · rw [← List.append_assoc] at hwhole
        obtain ⟨rfl, hsame⟩ := List.append_inj' hwhole rfl
        exact .part hpart (ih (by rw [hsame]))

theorem dropReturn (htext : Flat marks text) : Flat marks text.dropReturn := by
  unfold Text.dropReturn
  split
  · rename_i hlast
    obtain ⟨front, rfl⟩ := List.getLast?_eq_some_iff.mp hlast
    rw [List.dropLast_concat]
    exact htext.of_concat (by decide)
  · exact htext

end Flat

/-! ### The HTML of bare values -/

theorem Bare.flat (hvalue : Bare value) (hsub : marks ⊆ inlineMarks) : Flat marks value :=
  .of_disjoint hvalue.tag_not_mem (List.disjoint_of_subset_right hsub hvalue.disjoint)

theorem flat_element {name : Text} (hname : '<' ∉ name ∧ name.Disjoint inlineMarks)
    (hvalue : Bare value) (hsub : marks ⊆ inlineMarks) : Flat marks (element name value) := by
  have hmarks := List.disjoint_of_subset_right hsub hname.2
  have hslash : ('/' :: name).Disjoint marks :=
    List.disjoint_cons_left.mpr ⟨fun hin => absurd (hsub hin) (by decide), hmarks⟩
  have hopening : Part marks ('<' :: (name ++ ['>'])) := .tag hname.1 hmarks
  have hclosing : Part marks ('<' :: ('/' :: name ++ ['>'])) := .tag (by simp [hname.1]) hslash
  rw [element_eq_between, List.append_assoc]
  exact .part hopening ((hvalue.flat hsub).append (.of_part hclosing))

theorem flat_imageHtml (hlabel : Bare label) (htarget : Bare target) (hsub : marks ⊆ inlineMarks) :
    Flat marks (imageHtml label target) := by
  have hshape : imageHtml label target = '<' :: ("img src=\"".toList ++ target ++
      "\" alt=\"".toList ++ label ++ ['"'] ++ ['>']) := by
    have hclose : "\">".toList = ['"'] ++ ['>'] := by decide
    rw [imageHtml_eq_cons, hclose]
    simp only [List.append_assoc]
  rw [hshape]
  refine .of_part (.tag ?_ (List.disjoint_of_subset_right hsub ?_))
  · simp [hlabel.tag_not_mem, htarget.tag_not_mem]
  · simp only [List.disjoint_append_left]
    exact ⟨⟨⟨⟨by decide, htarget.disjoint⟩, by decide⟩, hlabel.disjoint⟩, by decide⟩

theorem flat_anchorHtml (hlabel : Bare label) (htarget : Bare target) (hsub : marks ⊆ inlineMarks) :
    Flat marks (anchorHtml label target) := by
  have hshape : anchorHtml label target = '<' :: ("a href=\"".toList ++ target ++ ['"'] ++ ['>']) ++
      (label ++ '<' :: ("/a".toList ++ ['>'])) := by
    have hopen : "\">".toList = ['"'] ++ ['>'] := by decide
    have hclose : "</a>".toList = '<' :: ("/a".toList ++ ['>']) := by decide
    rw [anchorHtml_eq_cons, hopen, hclose]
    simp
  rw [hshape]
  refine .part (.tag (by simp [htarget.tag_not_mem]) (List.disjoint_of_subset_right hsub ?_))
    ((hlabel.flat hsub).append (.of_part (.tag (by decide) ?_)))
  · simp only [List.disjoint_append_left]
    exact ⟨⟨by decide, htarget.disjoint⟩, by decide⟩
  · exact List.disjoint_of_subset_right hsub (by decide)

end Flat

/-! ### What a step reads -/

/-- A piece without tags stands between front and behind, and with its HTML in its place all of the
text is flat. -/
structure Cut (later : List Char) (text front html behind : Text) : Prop where
  piece : ∃ piece, text = front ++ (piece ++ behind) ∧ '<' ∉ piece
  flat_front : Flat later front
  flat_html : Flat later html
  flat_behind : Flat later behind

namespace Cut

variable {later : List Char} {text front html behind more : Text}

theorem prepend (hcut : Cut later text front html behind) (hmore : Flat later more) :
    Cut later (more ++ text) (more ++ front) html behind := by
  obtain ⟨⟨piece, rfl, hpiece⟩, hfront, hhtml, hbehind⟩ := hcut
  exact ⟨⟨piece, by simp, hpiece⟩, hmore.append hfront, hhtml, hbehind⟩

theorem append (hcut : Cut later text front html behind) (hmore : Flat later more) :
    Cut later (text ++ more) front html (behind ++ more) := by
  obtain ⟨⟨piece, rfl, hpiece⟩, hfront, hhtml, hbehind⟩ := hcut
  exact ⟨⟨piece, by simp, hpiece⟩, hfront, hhtml, hbehind.append hmore⟩

end Cut

/-- Whatever stands behind the text, the step reads a piece of the text and leaves it flat. -/
def Construct.Cuts (construct : Construct) (later : List Char) (text : Text) : Prop :=
  ∃ front html behind, Cut later text front html behind ∧
    ∀ rest, construct.recogniser.ReadsFirst (text ++ rest) front html (behind ++ rest)

section Steps

variable {construct : Construct} {marks later : List Char}
  {text rest front piece html behind encloser value label target : Text} {c : Char}

/-- The step takes a whole piece. -/
theorem cuts_of_piece (hmem : construct ∈ inlineConstructs) (hpiece : construct.Piece piece html)
    (htag : '<' ∉ piece) (hhtml : Flat later html) : construct.Cuts later piece := by
  refine ⟨[], html, [], ⟨⟨piece, by simp, htag⟩, .nil, hhtml, .nil⟩, fun rest => ?_⟩
  exact Recogniser.readsFirst_nil
    ((inline_recogniser hmem).eq_some_iff.mpr ⟨piece, hpiece, rfl⟩)

theorem Bare.markedPiece (hvalue : Bare value) {mark : Char} (hmark : mark ∈ inlineMarks)
    (name : Text) : MarkedPiece mark name (mark :: (value ++ [mark])) (element name value) :=
  ⟨value, hvalue.ne_nil, fun hin => hvalue.disjoint hin hmark, rfl, rfl⟩

theorem Bare.boldPiece (hvalue : Bare value) :
    BoldPiece ("**".toList ++ (value ++ "**".toList)) (element "strong".toList value) := by
  obtain ⟨c, tail, rfl⟩ := List.exists_cons_of_ne_nil hvalue.ne_nil
  have hstar : '*' ∉ tail := fun hin =>
    hvalue.disjoint (List.mem_cons_of_mem c hin) (by decide)
  exact ⟨c, tail, hvalue.newline_not_mem, Command.not_stars_infix hstar, rfl, rfl⟩

/-- Of two stars the italic step takes the second, and the last one stays, too. -/
theorem cuts_italic_stars (hvalue : Bare value) (hsub : later ⊆ inlineMarks) (hstar : '*' ∉ later) :
    Construct.italic.Cuts later ("**".toList ++ (value ++ "**".toList)) := by
  have hplain : Flat later ['*'] := .plain (by decide) hstar .nil
  have htag : '<' ∉ '*' :: (value ++ ['*']) := by simp [hvalue.tag_not_mem]
  have hpiece : ItalicPiece ('*' :: (value ++ ['*'])) (element "em".toList value) :=
    Or.inl (hvalue.markedPiece (by decide) _)
  refine ⟨['*'], element "em".toList value, ['*'],
    ⟨⟨_, by simp, htag⟩, hplain, flat_element (by decide) hvalue hsub, hplain⟩, fun rest => ?_⟩
  have hread : italicAt ('*' :: (value ++ ['*']) ++ ('*' :: rest)) =
      some (element "em".toList value, '*' :: rest) :=
    italicAt_eq_some_iff.mpr ⟨_, hpiece, rfl⟩
  have hshape : "**".toList ++ (value ++ "**".toList) ++ rest =
      '*' :: ('*' :: (value ++ ['*']) ++ ('*' :: rest)) := by
    simp
  have hnone : italicAt ('*' :: ('*' :: (value ++ ['*']) ++ ('*' :: rest))) = none := by
    simp [italicAt, marked?]
  rw [hshape]
  exact Recogniser.readsFirst_cons_iff.mpr ⟨hnone, Recogniser.readsFirst_nil hread⟩

/-- Enclosers that are marks of the construct are read by its step. -/
theorem cuts_enclosed (hmem : construct ∈ inlineConstructs) (hsub : later ⊆ inlineMarks)
    (hstar : construct = .italic → '*' ∉ later) (hencloser : encloser ∈ enclosers)
    (hvalue : Bare value) (hmark : ¬encloser.Disjoint construct.marks) :
    construct.Cuts later (encloser ++ (value ++ encloser)) := by
  have hhtml {name : Text} (hname : '<' ∉ name ∧ name.Disjoint inlineMarks) :
      Flat later (element name value) := flat_element hname hvalue hsub
  have htag : '<' ∉ encloser ++ (value ++ encloser) := by
    have hplain : ∀ encloser ∈ enclosers, '<' ∉ encloser := by decide
    simp [hplain encloser hencloser, hvalue.tag_not_mem]
  simp only [enclosers, List.mem_cons, List.not_mem_nil, or_false] at hencloser
  cases construct with
  | bold =>
      rcases hencloser with rfl | rfl | rfl
      · exact cuts_of_piece hmem hvalue.boldPiece htag (hhtml (by decide))
      · exact absurd (by decide) hmark
      · exact absurd (by decide) hmark
  | italic =>
      rcases hencloser with rfl | rfl | rfl
      · exact cuts_italic_stars hvalue hsub (hstar rfl)
      · exact cuts_of_piece hmem (Or.inr (hvalue.markedPiece (by decide) _)) htag
          (hhtml (by decide))
      · exact absurd (by decide) hmark
  | code =>
      rcases hencloser with rfl | rfl | rfl
      · exact absurd (by decide) hmark
      · exact absurd (by decide) hmark
      · exact cuts_of_piece hmem (hvalue.markedPiece (by decide) _) htag (hhtml (by decide))
  | image | link =>
      rcases hencloser with rfl | rfl | rfl <;> exact absurd (by decide) hmark
  | heading | blockquote | rule | orderedItem | unorderedItem => exact absurd hmem (by decide)

/-- Every step passes a part or cuts it. -/
theorem Part.passes_or_cuts (hmem : construct ∈ inlineConstructs) (hmarks : construct.marks ⊆ marks)
    (hsub : later ⊆ inlineMarks) (hstar : construct = .italic → '*' ∉ later)
    (htext : Part marks text) :
    (∀ rest, construct.recogniser.Passes text rest) ∨ construct.Cuts later text := by
  have hplain {c : Char} (hc : c ∉ inlineMarks) : c ∉ construct.marks := fun hin =>
    hc (construct.marks_subset hin)
  have hbare {value : Text} (hvalue : Bare value) : value.Disjoint construct.marks :=
    List.disjoint_of_subset_right construct.marks_subset hvalue.disjoint
  have hlast := htext.getLast?_ne
  cases htext with
  | @tag inner hopen hinner =>
      have hdisjoint : ('<' :: (inner ++ ['>'])).Disjoint construct.marks := by
        simp only [List.disjoint_cons_left, List.disjoint_append_left]
        exact ⟨hplain (by decide), List.disjoint_of_subset_right hmarks hinner,
          hplain (by decide), List.disjoint_nil_left _⟩
      exact Or.inl fun _ => passes_of_disjoint hmem hdisjoint fun _ _ => hlast
  | @enclosed encloser value hencloser hvalue =>
      by_cases hdisjoint : encloser.Disjoint construct.marks
      · have hwhole : (encloser ++ (value ++ encloser)).Disjoint construct.marks := by
          simp only [List.disjoint_append_left]
          exact ⟨hdisjoint, hbare hvalue, hdisjoint⟩
        exact Or.inl fun _ => passes_of_disjoint hmem hwhole fun _ _ => hlast
      · exact Or.inr (cuts_enclosed hmem hsub hstar hencloser hvalue hdisjoint)
  | @reference label target hlabel htarget hclose =>
      have hbracket : ']' ∉ label := fun hin => hlabel.disjoint hin (by decide)
      have hpiece : ReferencePiece label target
          ('[' :: (label ++ ']' :: '(' :: (target ++ [')']))) := ⟨hbracket, hclose, rfl⟩
      cases construct with
      | bold | italic | code =>
          left
          intro rest
          refine passes_of_disjoint hmem ?_ fun _ _ => hlast
          simp only [List.disjoint_cons_left, List.disjoint_append_left]
          exact ⟨by decide, hbare hlabel, by decide, by decide, hbare htarget, by decide, by simp⟩
      | image =>
          left
          intro rest
          refine passes_image ?_ fun _ => hlast
          have hopen {value : Text} (hvalue : Bare value) : '[' ∉ value := fun hin =>
            hvalue.disjoint hin (by decide)
          simp [hopen hlabel, hopen htarget]
      | link =>
          right
          exact cuts_of_piece hmem ⟨label, target, hpiece, rfl⟩
            (by simp [hlabel.tag_not_mem, htarget.tag_not_mem])
            (flat_anchorHtml hlabel htarget hsub)
      | heading | blockquote | rule | orderedItem | unorderedItem => exact absurd hmem (by decide)

/-- In a flat text an opening bracket belongs to a reference. -/
theorem Flat.exists_reference (htext : Flat marks ('[' :: rest)) (hmark : '[' ∈ marks) :
    ∃ label target behind, Bare label ∧ Bare target ∧ ')' ∉ target ∧
      rest = label ++ ']' :: '(' :: (target ++ ')' :: behind) ∧ Flat marks behind := by
  generalize hwhole : '[' :: rest = whole at htext
  cases htext with
  | nil => contradiction
  | plain htag hplain hrest =>
      obtain ⟨rfl, -⟩ := List.cons.inj hwhole
      contradiction
  | @part text behind hpart hbehind =>
      cases hpart with
      | tag hopen hinner => simp at hwhole
      | @enclosed encloser value hencloser hvalue =>
          simp only [enclosers, List.mem_cons, List.not_mem_nil, or_false] at hencloser
          rcases hencloser with rfl | rfl | rfl <;> simp at hwhole
      | @reference label target hlabel htarget hclose =>
          obtain ⟨-, rfl⟩ := List.cons.inj hwhole
          exact ⟨label, target, behind, hlabel, htarget, hclose, by simp, hbehind⟩

/-- An exclamation mark in front of a reference is read with it. -/
theorem Flat.cut_image (hrest : Flat marks rest) (hbracket : '[' ∈ marks) (hlater : later ⊆ marks)
    (hsub : later ⊆ inlineMarks) (hread : imageAt (c :: rest) = some (html, behind)) :
    Cut later (c :: rest) [] html behind := by
  obtain ⟨body, hshape, -⟩ := isSome_imageAt_iff.mp (Option.isSome_of_eq_some hread)
  obtain ⟨rfl, rfl⟩ := List.cons.inj hshape
  obtain ⟨label, target, more, hlabel, htarget, hclose, rfl, hmore⟩ :=
    hrest.exists_reference hbracket
  have hlabelBracket : ']' ∉ label := fun hin => hlabel.disjoint hin (by decide)
  have himage : imageAt ('!' :: '[' :: (label ++ ']' :: '(' :: (target ++ ')' :: more))) =
      some (imageHtml label target, more) :=
    imageAt_eq_some_iff.mpr ⟨_, ⟨label, target, _, ⟨hlabelBracket, hclose, rfl⟩, rfl, rfl⟩, by simp⟩
  obtain ⟨rfl, rfl⟩ := Prod.mk.inj (Option.some.inj (hread.symm.trans himage))
  exact ⟨⟨'!' :: '[' :: (label ++ ']' :: '(' :: (target ++ [')'])), by simp,
    by simp [hlabel.tag_not_mem, htarget.tag_not_mem]⟩, .nil, flat_imageHtml hlabel htarget hsub,
    hmore.mono hlater⟩

/-- What a step reads in a flat text holds no tag, and flat text is left. -/
theorem Flat.cut (hmem : construct ∈ inlineConstructs) (hmarks : construct.marks ⊆ marks)
    (hlater : later ⊆ marks) (hsub : marks ⊆ inlineMarks)
    (hstar : construct = .italic → '*' ∉ later) (htext : Flat marks text)
    (hreads : construct.recogniser.ReadsFirst text front html behind) :
    Cut later text front html behind := by
  have hlaterSub := List.Subset.trans hlater hsub
  induction htext generalizing front with
  | nil =>
      obtain ⟨read, hpiece, hshape⟩ := (inline_recogniser hmem).exists_piece hreads
      obtain ⟨first, body, last, rfl, -⟩ := (inline_recogniser hmem).delimited hpiece
      simp at hshape
  | @plain c rest htag hmark hrest ih =>
      cases front with
      | nil =>
          have hread := hreads.read_of_nil
          by_cases himage : construct = .image
          · subst himage
            exact hrest.cut_image (hmarks (by decide)) hlater hlaterSub hread
          · rw [recogniser_eq_none hmem himage fun hin => hmark (hmarks hin)] at hread
            contradiction
      | cons d front =>
          obtain ⟨after, hafter, -⟩ := hreads.read
          obtain ⟨rfl, -⟩ := List.cons.inj hafter
          have hplain : Flat later [c] := .plain htag (fun hin => hmark (hlater hin)) .nil
          exact (ih (Recogniser.readsFirst_cons_iff.mp hreads).2).prepend hplain
  | @part text rest hpart hrest ih =>
      rcases hpart.passes_or_cuts hmem hmarks hlaterSub hstar with
        hpasses | ⟨before, made, after, hcut, hread⟩
      · obtain ⟨inner, rfl, hinner⟩ := (hpasses rest).exists_front hreads
        exact (ih hinner).prepend (.of_part (hpart.mono hlater))
      · obtain ⟨rfl, rfl, rfl⟩ := hreads.unique (hread rest)
        exact hcut.append (hrest.mono hlater)

theorem intact_of_not_mem (hpiece : '<' ∉ piece) : construct.Intact piece := by
  cases construct with
  | image => exact hpiece
  | link =>
      rintro label target ⟨-, -, rfl⟩
      simp only [List.mem_cons, List.mem_append, not_or] at hpiece
      exact ⟨wellNested_of_not_mem hpiece.2.1, hpiece.2.2.2.2.1⟩
  | heading | bold | italic | blockquote | code | rule | orderedItem | unorderedItem =>
      exact wellNested_of_not_mem hpiece

/-- **A step on flat text.** It tears nothing and leaves flat text. -/
theorem Flat.spares (hmem : construct ∈ inlineConstructs) (hmarks : construct.marks ⊆ marks)
    (hlater : later ⊆ marks) (hsub : marks ⊆ inlineMarks)
    (hstar : construct = .italic → '*' ∉ later) (htext : Flat marks text) :
    construct.Spares text ∧ Flat later (construct.rewrite text) := by
  have hcuts {front html behind : Text}
      (hreads : construct.recogniser.ReadsFirst text front html behind) :
      Cut later text front html behind := htext.cut hmem hmarks hlater hsub hstar hreads
  constructor
  · intro front piece html behind hshape hreads
    obtain ⟨⟨read, hread, hpiece⟩, hfront, -, -⟩ := hcuts hreads
    obtain rfl : piece = read :=
      List.append_cancel_right (List.append_cancel_left (hshape.symm.trans hread))
    exact ⟨hfront.isSome_readTags, intact_of_not_mem hpiece⟩
  · rcases rewrite_cases hmem text with
      ⟨hsame, -⟩ | ⟨front, piece, html, behind, -, hreads, -, hrewrite⟩
    · rw [hsame]
      exact htext.mono hlater
    · obtain ⟨-, hfront, hhtml, hbehind⟩ := hcuts hreads
      rw [hrewrite]
      exact hfront.append (hhtml.append hbehind)

/-- Flat texts are torn by none of the five steps. From the italic step on a star may be plain. -/
theorem Flat.sparesAll (htext : Flat inlineMarks text) :
    Construct.SparesAll inlineConstructs text := by
  have hall : inlineMarks ⊆ inlineMarks := List.Subset.refl _
  have hrest : ['_', '`', '[', ']'] ⊆ inlineMarks := by decide
  have hsame : ['_', '`', '[', ']'] ⊆ ['_', '`', '[', ']'] := List.Subset.refl _
  obtain ⟨hbold, htext⟩ :=
    htext.spares (by decide : Construct.bold ∈ inlineConstructs) (by decide) hall hall (by decide)
  obtain ⟨hitalic, htext⟩ :=
    htext.spares (by decide : Construct.italic ∈ inlineConstructs) (by decide) hrest hall
      (by decide)
  obtain ⟨hcode, htext⟩ :=
    htext.spares (by decide : Construct.code ∈ inlineConstructs) (by decide) hsame hrest (by decide)
  obtain ⟨himage, htext⟩ :=
    htext.spares (by decide : Construct.image ∈ inlineConstructs) (by decide) hsame hrest
      (by decide)
  obtain ⟨hlink, -⟩ :=
    htext.spares (by decide : Construct.link ∈ inlineConstructs) (by decide) hsame hrest (by decide)
  exact ⟨hbold, hitalic, hcode, himage, hlink, trivial⟩

/-- **Flat lines are untorn.** -/
theorem Flat.untorn (htext : Flat inlineMarks text) (hline : '
' ∉ text) : Untorn text := by
  apply Flat.sparesAll
  rcases content_cases hline with ⟨hsame, -⟩ | ⟨construct, front, -, hfront, hshape, -, -⟩
  · rwa [hsame]
  · rw [hshape] at htext
    refine htext.of_append fun c hc hin => hfront.not_mem c hc ?_
    have hsub : '<' :: inlineMarks ⊆ '<' :: delimiters := by decide
    exact hsub hin

end Steps

end MarkupEditor.Markup

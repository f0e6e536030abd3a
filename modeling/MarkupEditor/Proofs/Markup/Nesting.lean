import MarkupEditor.Proofs.Markup.Blocks
import MarkupEditor.Proofs.Markup.Leftmost
import MarkupEditor.Proofs.Markup.LineRendering
import MarkupEditor.Proofs.Markup.Marks
import MarkupEditor.Proofs.Markup.Tags

/-!
# Well-nested renderings

An inline step encloses what it reads, and what it reads may hold tags of the steps before it. If it
takes in an opening tag without the closing one, the HTML is not well nested any more. A line is
untorn if no step does that. Then its HTML is well nested, and so is that of a document of such
lines: the forms of lines and the runs of items only put elements around whole lines.
-/

namespace MarkupEditor.Markup

/-! ### Steps that tear nothing -/

namespace Construct

/-- The element that the step writes. -/
def tagName : Construct → Text
  | heading => "h1".toList
  | bold => "strong".toList
  | italic => "em".toList
  | blockquote => "blockquote".toList
  | code => "code".toList
  | rule => "hr".toList
  | image => "img".toList
  | link => "a".toList
  | orderedItem | unorderedItem => "li".toList

/-- What the piece shows is well nested, and what becomes an attribute holds no tag. -/
def Intact (construct : Construct) (piece : Text) : Prop :=
  match construct with
  | image => '<' ∉ piece
  | link => ∀ label target, ReferencePiece label target piece → WellNested label ∧ '<' ∉ target
  | _ => WellNested piece

/-- If the step reads a piece, it reads it outside of tags and takes in no half of an element. -/
def Spares (construct : Construct) (text : Text) : Prop :=
  ∀ front piece html behind, text = front ++ (piece ++ behind) →
    construct.recogniser.ReadsFirst text front html behind →
      (readTags front).isSome ∧ construct.Intact piece

/-- Each step spares what the steps before it have made of the text. -/
def SparesAll : List Construct → Text → Prop
  | [], _ => True
  | construct :: constructs, text =>
    construct.Spares text ∧ SparesAll constructs (construct.rewrite text)

end Construct

/-- What the form of a line leaves for the inline steps. -/
def content (line : Text) : Text :=
  (Construct.all.findSome? fun construct => construct.body? line).getD line

/-- No inline step tears an element. -/
def Untorn (line : Text) : Prop :=
  Construct.SparesAll inlineConstructs (content line)

section Steps

variable {construct : Construct} {constructs : List Construct}
  {text front piece html behind : Text}

/-- A step either keeps the text and reads nothing, or replaces the piece that it reads. -/
theorem rewrite_cases (hmem : construct ∈ inlineConstructs) (text : Text) :
    (construct.rewrite text = text ∧
      ∀ front html behind, ¬construct.recogniser.ReadsFirst text front html behind) ∨
    ∃ front piece html behind, construct.Piece piece html ∧
      construct.recogniser.ReadsFirst text front html behind ∧
        text = front ++ (piece ++ behind) ∧
          construct.rewrite text = front ++ (html ++ behind) := by
  have hinline := inline_recogniser hmem
  rw [rewrite_eq_rewriteFirst hmem]
  by_cases hreads : ∃ front html behind, construct.recogniser.ReadsFirst text front html behind
  · obtain ⟨front, html, behind, hreads⟩ := hreads
    obtain ⟨piece, hpiece, htext⟩ := hinline.exists_piece hreads
    exact Or.inr ⟨front, piece, html, behind, hpiece, hreads, htext,
      hinline.rewriteFirst_of_readsFirst hreads⟩
  · have hsame := (construct.recogniser.readsFirst_or_eq text).resolve_left hreads
    refine Or.inl ⟨hsame, ?_⟩
    intro front html behind hread
    exact hreads ⟨front, html, behind, hread⟩

/-- The marks of bold, italic and code enclose their body as the tags do. -/
theorem exists_body_of_piece (hmem : construct ∈ [Construct.bold, .italic, .code])
    (hpiece : construct.Piece piece html) :
    ∃ body mark more, html = element construct.tagName body ∧
      piece = mark :: more ++ (body ++ mark :: more) ∧ mark :: more ⊆ inlineMarks := by
  simp only [List.mem_cons, List.not_mem_nil, or_false] at hmem
  rcases hmem with rfl | rfl | rfl
  · obtain ⟨c, rest, -, -, rfl, rfl⟩ := hpiece
    exact ⟨_, '*', ['*'], rfl, rfl, by decide⟩
  · rcases hpiece with ⟨body, -, -, rfl, rfl⟩ | ⟨body, -, -, rfl, rfl⟩
    · exact ⟨_, '*', [], rfl, rfl, by decide⟩
    · exact ⟨_, '_', [], rfl, rfl, by decide⟩
  · obtain ⟨body, -, -, rfl, rfl⟩ := hpiece
    exact ⟨_, '\x60', [], rfl, rfl, by decide⟩

theorem elementName_tagName (hmem : construct ∉ [Construct.rule, .image]) :
    ElementName construct.tagName := by
  cases construct with
  | rule | image => exact absurd (by decide) hmem
  | heading | bold | italic | blockquote | code | link | orderedItem | unorderedItem => decide

theorem bracket_not_mem_of_subset {delimiter : Text} (hsub : delimiter ⊆ inlineMarks) :
    '<' ∉ delimiter ∧ '>' ∉ delimiter :=
  ⟨fun hmem => absurd (hsub hmem) (by decide), fun hmem => absurd (hsub hmem) (by decide)⟩

theorem readTags_delimited {delimiter : Text} (hsub : delimiter ⊆ inlineMarks) (text : Text) :
    readTags (delimiter ++ (text ++ delimiter)) = readTags text := by
  obtain ⟨hopen, hclose⟩ := bracket_not_mem_of_subset hsub
  rw [readTags_append_of_not_mem hopen, readTags_append_inert text hopen hclose]

/-- An intact piece is well nested, and so is its HTML. -/
theorem Construct.Piece.wellNested (hmem : construct ∈ inlineConstructs)
    (hpiece : construct.Piece piece html) (hintact : construct.Intact piece) :
    WellNested piece ∧ WellNested html := by
  by_cases hmarked : construct ∈ [Construct.bold, .italic, .code]
  · obtain ⟨body, mark, more, rfl, rfl, hsub⟩ := exists_body_of_piece hmarked hpiece
    obtain ⟨hvoid, hpieceNested⟩ : construct ∉ [Construct.rule, .image] ∧
        WellNested (mark :: more ++ (body ++ mark :: more)) := by
      cases construct with
      | bold | italic | code => exact ⟨by decide, hintact⟩
      | image | link | heading | blockquote | rule | orderedItem | unorderedItem =>
          exact absurd hmarked (by decide)
    have hbody : WellNested body := by
      rwa [WellNested, readTags_delimited hsub] at hpieceNested
    exact ⟨hpieceNested, .element (elementName_tagName hvoid) hbody⟩
  · cases construct with
    | image =>
        obtain ⟨label, target, reference, ⟨-, -, rfl⟩, rfl, rfl⟩ := hpiece
        have hplain : '<' ∉ '!' :: '[' :: (label ++ ']' :: '(' :: (target ++ [')'])) := hintact
        simp only [List.mem_cons, List.mem_append, not_or] at hplain
        exact ⟨wellNested_of_not_mem hintact,
          wellNested_imageHtml hplain.2.2.1 hplain.2.2.2.2.2.1⟩
    | link =>
        obtain ⟨label, target, hreference, rfl⟩ := hpiece
        obtain ⟨hlabel, htarget⟩ := hintact label target hreference
        obtain ⟨-, -, rfl⟩ := hreference
        refine ⟨?_, wellNested_anchorHtml hlabel htarget⟩
        have hback : WellNested (']' :: '(' :: (target ++ [')'])) :=
          wellNested_of_not_mem (by simp [htarget])
        exact (wellNested_of_not_mem (by decide : '<' ∉ ['['])).append (hlabel.append hback)
    | bold | italic | code => exact absurd (by decide) hmarked
    | heading | blockquote | rule | orderedItem | unorderedItem => exact absurd hmem (by decide)

theorem Construct.Spares.wellNested_rewrite (hmem : construct ∈ inlineConstructs)
    (hspares : construct.Spares text) (htext : WellNested text) :
    WellNested (construct.rewrite text) := by
  rcases rewrite_cases hmem text with
    ⟨hsame, -⟩ | ⟨front, piece, html, behind, hpiece, hreads, rfl, hrewrite⟩
  · rwa [hsame]
  · obtain ⟨hfront, hintact⟩ := hspares front piece html behind rfl hreads
    obtain ⟨tags, hread⟩ := Option.isSome_iff_exists.mp hfront
    obtain ⟨hpieceNested, hhtmlNested⟩ := hpiece.wellNested hmem hintact
    rw [hrewrite]
    exact (wellNested_between_iff hread hpieceNested hhtmlNested).mpr htext

theorem Construct.SparesAll.wellNested_rewriteAll (hsub : constructs ⊆ inlineConstructs)
    (hspares : Construct.SparesAll constructs text) (htext : WellNested text) :
    WellNested (rewriteAll constructs text) := by
  induction constructs generalizing text with
  | nil => exact htext
  | cons step constructs ih =>
      rw [List.cons_subset] at hsub
      rw [rewriteAll_cons]
      exact ih hsub.2 hspares.2 (hspares.1.wellNested_rewrite hsub.1 htext)

end Steps

/-! ### Lines -/

section Lines

variable {construct : Construct} {line body : Text}

/-- A line is its content, rendered and enclosed by what its form asks for. -/
theorem content_cases (hline : '\n' ∉ line) :
    (content line = line ∧ renderLine line = renderInline line) ∨
    ∃ construct front, construct ∉ inlineConstructs ∧ Front construct front ∧
      line = front ++ content line ∧ (construct = .rule → content line = []) ∧
        renderLine line = construct.enclose (renderInline (content line)) := by
  cases hfind : Construct.all.findSome? fun construct => construct.body? line with
  | none =>
      have hnone : ∀ construct : Construct, construct.body? line = none := fun construct =>
        List.findSome?_eq_none_iff.mp hfind construct (mem_all construct)
      exact Or.inl ⟨by rw [content, hfind]; rfl, renderLine_of_body?_eq_none hline hnone⟩
  | some body =>
      have hcontent : content line = body := by rw [content, hfind]; rfl
      obtain ⟨construct, -, hbody⟩ := List.exists_of_findSome?_eq_some hfind
      obtain ⟨-, hrule, front, hfront, hshape⟩ := body?_eq_some_iff.mp hbody
      have hmem : construct ∉ inlineConstructs := by
        cases hfront <;> decide
      refine Or.inr ⟨construct, front, hmem, hfront, hcontent ▸ hshape, hcontent ▸ hrule, ?_⟩
      rw [hcontent]
      exact renderLine_of_body? hline hmem hbody

theorem mem_of_mem_content (hline : '\n' ∉ line) {c : Char} (hc : c ∈ content line) : c ∈ line := by
  rcases content_cases hline with ⟨hsame, -⟩ | ⟨construct, front, -, -, hshape, -, -⟩
  · rwa [hsame] at hc
  · rw [hshape]
    exact List.mem_append_right _ hc

theorem WellNested.enclose (hmem : construct ∉ inlineConstructs) (hbody : WellNested body) :
    WellNested (construct.enclose body) := by
  cases construct with
  | heading | blockquote | orderedItem | unorderedItem => exact .element (by decide) hbody
  | rule => exact (by decide : WellNested "<hr>".toList)
  | bold | italic | code | image | link => exact absurd (by decide) hmem

/-- The HTML of an untorn line is well nested. -/
theorem Untorn.wellNested_renderLine (huntorn : Untorn line) (hline : '\n' ∉ line)
    (htag : '<' ∉ line) : WellNested (renderLine line) := by
  have hcontent : WellNested (content line) :=
    wellNested_of_not_mem fun hmem => htag (mem_of_mem_content hline hmem)
  have hinner : WellNested (renderInline (content line)) :=
    huntorn.wellNested_rewriteAll (List.Subset.refl _) hcontent
  rcases content_cases hline with ⟨hsame, hrender⟩ | ⟨construct, front, hmem, -, -, -, hrender⟩
  · rwa [hrender, ← hsame]
  · rw [hrender]
    exact hinner.enclose hmem

end Lines

/-! ### Documents -/

section Documents

variable {lines : List Text}

theorem ListKind.openTag_append (kind : ListKind) (text : Text) :
    kind.openTag ++ text ++ kind.closeTag = element kind.tag text := by
  simp [ListKind.openTag, ListKind.closeTag, element]

theorem ListKind.elementName_tag (kind : ListKind) : ElementName kind.tag := by
  cases kind <;> decide

theorem Block.wellNested_html {block : Block}
    (hlines : ∀ line ∈ block.lines, WellNested (renderLine line)) : WellNested block.html := by
  cases block with
  | line text => exact hlines text (List.mem_singleton.mpr rfl)
  | run kind items =>
      rw [Block.html, ListKind.openTag_append]
      exact .element kind.elementName_tag (.flatMap hlines)

theorem wellNested_unlines {texts : List Text} (htexts : ∀ text ∈ texts, WellNested text) :
    WellNested (Text.unlines texts) := by
  cases texts with
  | nil => exact wellNested_of_not_mem List.not_mem_nil
  | cons text texts =>
      obtain ⟨htext, hrest⟩ := List.forall_mem_cons.mp htexts
      rw [Text.unlines_cons]
      refine htext.append (.flatMap fun below hbelow => ?_)
      exact (wellNested_of_not_mem (by decide : '<' ∉ ['\n'])).append (hrest below hbelow)

/-- A document of untorn lines has a well-nested rendering. -/
theorem wellNested_renderLines (hlines : ∀ line ∈ lines, Untorn line)
    (hnewline : ∀ line ∈ lines, '\n' ∉ line) (htag : ∀ line ∈ lines, '<' ∉ line) :
    WellNested (renderLines lines) := by
  rw [renderLines_eq_unlines_blocks]
  apply wellNested_unlines
  intro html hhtml
  obtain ⟨block, hblock, rfl⟩ := List.mem_map.mp hhtml
  apply Block.wellNested_html
  intro line hline
  have hmem : line ∈ lines := by
    rw [← (isPartition_blocks lines).flatMap_lines]
    exact List.mem_flatMap.mpr ⟨block, hblock, hline⟩
  exact (hlines line hmem).wellNested_renderLine (hnewline line hmem) (htag line hmem)

end Documents

end MarkupEditor.Markup

import MarkupEditor.Proofs.Markup.Nesting
import MarkupEditor.Proofs.Markup.Retagging

/-!
# Torn lines

A torn element cannot be mended. Without images and links every tag is written by a step as one of a
pair, and each step writes an element of its own name, so tags of the steps before it cannot stand
in for its own: if what a step encloses is not balanced, the HTML of the line is not, and as the
tags of a line are paired, neither is that of a document with this line.
-/

namespace MarkupEditor.Markup

/-! ### Paired tags -/

/-- The tag holds no mark, and if it opens or closes an element, it is one of the names. -/
structure Named (names : List Text) (tag : Text) : Prop where
  disjoint : tag.Disjoint inlineMarks
  mem : ∀ name, Tag.ofText tag = .opening name ∨ Tag.ofText tag = .closing name → name ∈ names

/-- The tags can be read, are of the names, and come in pairs. -/
def Tagged (names : List Text) (text : Text) : Prop :=
  ∃ tags, readTags text = some tags ∧ (∀ tag ∈ tags, Named names tag) ∧ Paired tags

section Tagged

variable {names : List Text} {name text more tag : Text} {tags : List Text}

theorem named_of_elementName (hname : ElementName name) (hmem : name ∈ names)
    (hdisjoint : name.Disjoint inlineMarks) :
    Named names name ∧ Named names ('/' :: name) := by
  refine ⟨⟨hdisjoint, ?_⟩, ⟨List.disjoint_cons_left.mpr ⟨by decide, hdisjoint⟩, ?_⟩⟩
  · rintro other (hother | hother)
    · rw [hname.opening, Tag.opening.injEq] at hother
      exact hother ▸ hmem
    · rw [hname.opening] at hother
      contradiction
  · rintro other (hother | hother)
    · rw [hname.closing] at hother
      contradiction
    · rw [hname.closing, Tag.closing.injEq] at hother
      exact hother ▸ hmem

theorem fresh_of_named (htags : ∀ tag ∈ tags, Named names tag) (hname : name ∉ names) :
    Fresh name tags := by
  intro tag htag
  have hnamed := htags tag htag
  exact ⟨fun hopening => hname (hnamed.mem name (Or.inl hopening)),
    fun hclosing => hname (hnamed.mem name (Or.inr hclosing))⟩

namespace Tagged

theorem of_not_mem (htext : '<' ∉ text) : Tagged names text :=
  ⟨[], readTags_of_not_mem htext, List.forall_mem_nil _, .nil⟩

theorem mono {wider : List Text} (htext : Tagged names text) (hsub : names ⊆ wider) :
    Tagged wider text := by
  obtain ⟨tags, hread, hnamed, hpaired⟩ := htext
  refine ⟨tags, hread, fun tag htag => ?_, hpaired⟩
  exact ⟨(hnamed tag htag).disjoint, fun name hname => hsub ((hnamed tag htag).mem name hname)⟩

theorem append (htext : Tagged names text) (hmore : Tagged names more) :
    Tagged names (text ++ more) := by
  obtain ⟨first, hfirstRead, hfirst, hfirstPaired⟩ := htext
  obtain ⟨second, hsecondRead, hsecond, hsecondPaired⟩ := hmore
  refine ⟨first ++ second, ?_, List.forall_mem_append.mpr ⟨hfirst, hsecond⟩,
    hfirstPaired.append hsecondPaired⟩
  rw [readTags_append hfirstRead, hsecondRead, Option.map_some]

theorem flatMap {texts : List Text} {render : Text → Text}
    (htexts : ∀ text ∈ texts, Tagged names (render text)) :
    Tagged names (texts.flatMap render) := by
  induction texts with
  | nil => exact .of_not_mem List.not_mem_nil
  | cons text texts ih =>
      obtain ⟨htext, hrest⟩ := List.forall_mem_cons.mp htexts
      exact htext.append (ih hrest)

theorem element (hname : ElementName name) (hmem : name ∈ names)
    (hdisjoint : name.Disjoint inlineMarks) (htext : Tagged names text) :
    Tagged names (element name text) := by
  obtain ⟨tags, hread, hnamed, hpaired⟩ := htext
  obtain ⟨hopening, hclosing⟩ := named_of_elementName hname hmem hdisjoint
  refine ⟨_, readTags_element hname hread, ?_, ?_⟩
  · rw [List.forall_mem_cons, List.forall_mem_append, List.forall_mem_singleton]
    exact ⟨hopening, hnamed, hclosing⟩
  · have hinside : Paired ([] ++ (tags ++ [])) := by simpa using hpaired
    exact hinside.element hname.opening hname.closing

/-- Well-nested texts in a row are so each by itself. -/
theorem wellNested_of_append (htext : Tagged names text) (hall : WellNested (text ++ more)) :
    WellNested text ∧ WellNested more := by
  obtain ⟨first, hread, -, hpaired⟩ := htext
  obtain ⟨tags, hallRead, hbalanced⟩ := wellNested_iff.mp hall
  rw [readTags_append hread] at hallRead
  obtain ⟨second, hsecond, rfl⟩ := Option.map_eq_some_iff.mp hallRead
  obtain ⟨hfirst, hrest⟩ := hpaired.balanced_of_append hbalanced
  exact ⟨wellNested_iff.mpr ⟨first, hread, hfirst⟩, wellNested_iff.mpr ⟨second, hsecond, hrest⟩⟩

theorem wellNested_of_flatMap {texts : List Text} {render : Text → Text}
    (htexts : ∀ text ∈ texts, Tagged names (render text))
    (hall : WellNested (texts.flatMap render)) : ∀ text ∈ texts, WellNested (render text) := by
  induction texts with
  | nil => exact List.forall_mem_nil _
  | cons text texts ih =>
      obtain ⟨htext, hrest⟩ := List.forall_mem_cons.mp htexts
      obtain ⟨hfirst, hlater⟩ := htext.wellNested_of_append hall
      exact List.forall_mem_cons.mpr ⟨hfirst, ih hrest hlater⟩

/-- What an element of a new name encloses is well nested if the element is. -/
theorem wellNested_of_element (htext : Tagged names text) (hname : ElementName name)
    (hnew : name ∉ names) (hall : WellNested (Markup.element name text)) : WellNested text := by
  obtain ⟨tags, hread, hnamed, -⟩ := htext
  obtain ⟨allTags, hallRead, hbalanced⟩ := wellNested_iff.mp hall
  rw [readTags_element hname hread] at hallRead
  obtain rfl := Option.some.inj hallRead
  obtain ⟨hinside, -⟩ := balanced_of_nestAll_element hname.opening hname.closing
    (fresh_of_named hnamed hnew) hbalanced
  exact wellNested_iff.mpr ⟨tags, hread, hinside⟩

end Tagged

end Tagged

/-! ### The steps of bold, italic and code -/

section Steps

variable {construct : Construct} {constructs : List Construct} {names : List Text}
  {text front piece html behind : Text}

theorem inline_of_mem (hmem : construct ∈ [Construct.bold, .italic, .code]) :
    construct ∈ inlineConstructs := by
  have hsub : [Construct.bold, .italic, .code] ⊆ inlineConstructs := by decide
  exact hsub hmem

theorem tagName_of_mem (hmem : construct ∈ [Construct.bold, .italic, .code]) :
    ElementName construct.tagName ∧ construct.tagName.Disjoint inlineMarks := by
  simp only [List.mem_cons, List.not_mem_nil, or_false] at hmem
  rcases hmem with rfl | rfl | rfl <;> decide

/-- A piece starts and ends between tags, and the step puts its tags around those of the piece. -/
theorem exists_tags_of_piece (hmem : construct ∈ [Construct.bold, .italic, .code])
    (hpiece : construct.Piece piece html) (htext : Tagged names (front ++ (piece ++ behind))) :
    ∃ first inside second, readTags front = some first ∧ readTags piece = some inside ∧
      readTags (front ++ (piece ++ behind)) = some (first ++ (inside ++ second)) ∧
      readTags (front ++ (html ++ behind)) =
        some (first ++ construct.tagName :: (inside ++ ('/' :: construct.tagName) :: second)) ∧
      (∀ tag ∈ first ++ (inside ++ second), Named names tag) ∧
      Paired (first ++ (inside ++ second)) := by
  obtain ⟨tags, hread, hnamed, hpaired⟩ := htext
  obtain ⟨body, mark, more, rfl, rfl, hsub⟩ := exists_body_of_piece hmem hpiece
  have hmark : mark ∈ inlineMarks := hsub List.mem_cons_self
  have hclose : mark ≠ '>' := fun heq => (bracket_not_mem_of_subset hsub).2 (by simp [heq])
  have hskip (rest : Text) : readTags (mark :: (more ++ rest)) = readTags rest :=
    readTags_append_of_not_mem (bracket_not_mem_of_subset hsub).1 rest
  have hbetween : ∀ tag ∈ tags, mark ∉ tag := fun tag htag hin =>
    (hnamed tag htag).disjoint hin hmark
  have hshape : front ++ (mark :: more ++ (body ++ mark :: more) ++ behind) =
      front ++ mark :: (more ++ (body ++ mark :: (more ++ behind))) := by
    simp
  have hall := hread
  rw [hshape] at hread
  obtain ⟨first, rest, hfirst, hrest, rfl⟩ := exists_readTags_of_append_cons hread hbetween hclose
  rw [hskip] at hrest
  obtain ⟨inside, second, hinside, hsecond, rfl⟩ :=
    exists_readTags_of_append_cons hrest (List.forall_mem_append.mp hbetween).2 hclose
  rw [hskip] at hsecond
  have hhtml := readTags_element (tagName_of_mem hmem).1 hinside
  refine ⟨first, inside, second, hfirst, by rw [readTags_delimited hsub, hinside], hall, ?_, hnamed,
    hpaired⟩
  rw [readTags_append hfirst, readTags_append hhtml, hsecond]
  simp

theorem tagged_rewrite (hmem : construct ∈ [Construct.bold, .italic, .code])
    (htext : Tagged names text) : Tagged (construct.tagName :: names) (construct.rewrite text) := by
  have hwider := htext.mono (List.subset_cons_self construct.tagName names)
  rcases rewrite_cases (inline_of_mem hmem) text with
    ⟨hsame, -⟩ | ⟨front, piece, html, behind, hpiece, -, rfl, hrewrite⟩
  · rwa [hsame]
  · obtain ⟨first, inside, second, -, -, -, hread, hnamed, hpaired⟩ :=
      exists_tags_of_piece hmem hpiece hwider
    obtain ⟨hname, hdisjoint⟩ := tagName_of_mem hmem
    obtain ⟨hopening, hclosing⟩ := named_of_elementName hname List.mem_cons_self hdisjoint
    rw [hrewrite]
    refine ⟨_, hread, ?_, hpaired.element hname.opening hname.closing⟩
    simp only [List.forall_mem_append, List.forall_mem_cons] at hnamed ⊢
    exact ⟨hnamed.1, hopening, hnamed.2.1, hclosing, hnamed.2.2⟩

/-- If the HTML of a step is well nested, the piece was, and so was the text. -/
theorem wellNested_of_piece (hmem : construct ∈ [Construct.bold, .italic, .code])
    (hpiece : construct.Piece piece html) (htext : Tagged names (front ++ (piece ++ behind)))
    (hnew : construct.tagName ∉ names) (hnested : WellNested (front ++ (html ++ behind))) :
    (readTags front).isSome ∧ WellNested piece ∧ WellNested (front ++ (piece ++ behind)) := by
  obtain ⟨first, inside, second, hfirst, hinside, hread, hnext, hnamed, -⟩ :=
    exists_tags_of_piece hmem hpiece htext
  obtain ⟨hname, -⟩ := tagName_of_mem hmem
  simp only [List.forall_mem_append] at hnamed
  obtain ⟨tags, htags, hbalanced⟩ := wellNested_iff.mp hnested
  obtain rfl := Option.some.inj (hnext.symm.trans htags)
  rw [Balanced, nestAll_append] at hbalanced
  obtain ⟨opened, hopened, hrest⟩ := Option.bind_eq_some_iff.mp hbalanced
  obtain ⟨hwhole, hlater⟩ := balanced_of_nestAll_element hname.opening hname.closing
    (fresh_of_named hnamed.2.1 hnew) hrest
  have houtside : Balanced (first ++ second) := by
    rw [Balanced, nestAll_append, hopened, Option.bind_some, hlater]
  exact ⟨by rw [hfirst]; rfl, wellNested_iff.mpr ⟨inside, hinside, hwhole⟩,
    wellNested_iff.mpr ⟨_, hread, hwhole.between_iff.mpr houtside⟩⟩

/-- If the HTML of a step is well nested, the step has torn nothing. -/
theorem spares_of_wellNested_rewrite (hmem : construct ∈ [Construct.bold, .italic, .code])
    (htext : Tagged names text) (hnew : construct.tagName ∉ names)
    (hnested : WellNested (construct.rewrite text)) :
    construct.Spares text ∧ WellNested text := by
  have hinline := inline_recogniser (inline_of_mem hmem)
  constructor
  · rintro front piece html behind rfl hreads
    obtain ⟨read, hpiece, hsame⟩ := hinline.exists_piece hreads
    obtain rfl : piece = read := List.append_cancel_right (List.append_cancel_left hsame)
    rw [rewrite_eq_rewriteFirst (inline_of_mem hmem),
      hinline.rewriteFirst_of_readsFirst hreads] at hnested
    obtain ⟨hfront, hwhole, -⟩ := wellNested_of_piece hmem hpiece htext hnew hnested
    refine ⟨hfront, ?_⟩
    simp only [List.mem_cons, List.not_mem_nil, or_false] at hmem
    rcases hmem with rfl | rfl | rfl <;> exact hwhole
  · rcases rewrite_cases (inline_of_mem hmem) text with
      ⟨hsame, -⟩ | ⟨front, piece, html, behind, hpiece, -, rfl, hrewrite⟩
    · rwa [hsame] at hnested
    · rw [hrewrite] at hnested
      exact (wellNested_of_piece hmem hpiece htext hnew hnested).2.2

theorem sparesAll_of_wellNested_rewriteAll
    (hmem : ∀ construct ∈ constructs, construct ∈ [Construct.bold, .italic, .code])
    (hnodup : (constructs.map Construct.tagName).Nodup)
    (hnew : ∀ construct ∈ constructs, construct.tagName ∉ names) (htext : Tagged names text)
    (hnested : WellNested (rewriteAll constructs text)) :
    Construct.SparesAll constructs text ∧ WellNested text := by
  induction constructs generalizing names text with
  | nil => exact ⟨trivial, hnested⟩
  | cons step constructs ih =>
      obtain ⟨hstep, hrest⟩ := List.forall_mem_cons.mp hmem
      obtain ⟨hstepNew, hrestNew⟩ := List.forall_mem_cons.mp hnew
      rw [List.map_cons, List.nodup_cons] at hnodup
      rw [rewriteAll_cons] at hnested
      have hlaterNew : ∀ later ∈ constructs, later.tagName ∉ step.tagName :: names := by
        intro later hlater
        rw [List.mem_cons, not_or]
        exact ⟨fun heq => hnodup.1 (heq ▸ List.mem_map_of_mem hlater), hrestNew later hlater⟩
      obtain ⟨hspares, hnext⟩ := ih hrest hnodup.2 hlaterNew (tagged_rewrite hstep htext) hnested
      obtain ⟨hstepSpares, hwhole⟩ := spares_of_wellNested_rewrite hstep htext hstepNew hnext
      exact ⟨⟨hstepSpares, hspares⟩, hwhole⟩

/-- A step that finds no mark reads nothing. -/
theorem spares_of_disjoint (hmem : construct ∈ inlineConstructs)
    (htext : text.Disjoint construct.marks) : construct.Spares text := by
  rintro front piece html behind rfl hreads
  obtain ⟨read, hpiece, hsame⟩ := (inline_recogniser hmem).exists_piece hreads
  obtain rfl : piece = read := List.append_cancel_right (List.append_cancel_left hsame)
  have hmarks : piece.Disjoint construct.marks :=
    (List.disjoint_append_left.mp (List.disjoint_append_left.mp htext).2).1
  exfalso
  by_cases himage : construct = .image
  · subst himage
    obtain ⟨label, target, reference, ⟨-, -, rfl⟩, rfl, -⟩ := hpiece
    exact hmarks (List.mem_cons_of_mem _ List.mem_cons_self) (by decide)
  · obtain ⟨mark, rest, rfl, hmark⟩ := hpiece.exists_eq_cons himage
    exact hmarks List.mem_cons_self hmark

theorem sparesAll_append {first second : List Construct} :
    Construct.SparesAll (first ++ second) text ↔
      Construct.SparesAll first text ∧ Construct.SparesAll second (rewriteAll first text) := by
  induction first generalizing text with
  | nil => exact (and_iff_right trivial).symm
  | cons step first ih =>
      rw [List.cons_append, Construct.SparesAll, ih, Construct.SparesAll, rewriteAll_cons,
        and_assoc]

theorem bracket_not_mem_rewriteAll
    (hmem : ∀ construct ∈ constructs, construct ∈ [Construct.bold, .italic, .code])
    (hbracket : '[' ∉ text) : '[' ∉ rewriteAll constructs text := by
  induction constructs generalizing text with
  | nil => exact hbracket
  | cons step constructs ih =>
      obtain ⟨hstep, hrest⟩ := List.forall_mem_cons.mp hmem
      have hother : ∀ construct ∈ [Construct.bold, .italic, .code],
          construct ≠ .image ∧ construct ≠ .link := by decide
      have hretagged := retagged_rewrite (hother step hstep).1 (hother step hstep).2 text
      exact ih hrest fun hin => hbracket (hretagged.mem (by decide) hin)

/-- Without brackets only the marks of bold, italic and code are read. -/
theorem renderInline_of_bracket_not_mem (hbracket : '[' ∉ text) :
    renderInline text = rewriteAll [.bold, .italic, .code] text ∧
      Construct.SparesAll [.image, .link] (rewriteAll [.bold, .italic, .code] text) := by
  have hrest : (rewriteAll [.bold, .italic, .code] text).Disjoint ['['] :=
    List.disjoint_singleton.mpr (bracket_not_mem_rewriteAll (fun _ hmem => hmem) hbracket)
  have himage := @rewrite_of_disjoint .image _ (by decide) hrest
  have hlink := @rewrite_of_disjoint .link _ (by decide) hrest
  constructor
  · calc renderInline text
        = Construct.link.rewrite
            (Construct.image.rewrite (rewriteAll [.bold, .italic, .code] text)) := rfl
      _ = rewriteAll [.bold, .italic, .code] text := by rw [himage, hlink]
  · refine ⟨spares_of_disjoint (by decide) hrest, ?_, trivial⟩
    rw [himage]
    exact spares_of_disjoint (by decide) hrest

/-- What is well nested has not been torn. -/
theorem sparesAll_of_wellNested (htag : '<' ∉ text) (hbracket : '[' ∉ text)
    (hnested : WellNested (renderInline text)) :
    Construct.SparesAll inlineConstructs text := by
  obtain ⟨hrender, hrest⟩ := renderInline_of_bracket_not_mem hbracket
  rw [hrender] at hnested
  have htagged : Tagged [] text := .of_not_mem htag
  obtain ⟨hspares, -⟩ := sparesAll_of_wellNested_rewriteAll (fun _ hmem => hmem) (by decide)
    (fun _ _ => List.not_mem_nil) htagged hnested
  exact sparesAll_append.mpr ⟨hspares, hrest⟩

end Steps

/-! ### Lines and documents -/

/-- The elements that a line without brackets may be given, those of its content first. -/
def inlineNames : List Text := ["strong".toList, "em".toList, "code".toList]

def lineNames : List Text := inlineNames ++ ["h1".toList, "blockquote".toList, "li".toList]

section Lines

variable {construct : Construct} {constructs : List Construct} {names : List Text}
  {lines : List Text} {line text : Text}

theorem tagged_rewriteAll
    (hmem : ∀ construct ∈ constructs, construct ∈ [Construct.bold, .italic, .code])
    (htext : Tagged inlineNames text) : Tagged inlineNames (rewriteAll constructs text) := by
  induction constructs generalizing text with
  | nil => exact htext
  | cons step constructs ih =>
      obtain ⟨hstep, hrest⟩ := List.forall_mem_cons.mp hmem
      have hname : ∀ construct ∈ [Construct.bold, .italic, .code],
          construct.tagName ∈ inlineNames := by decide
      refine ih hrest ((tagged_rewrite hstep htext).mono ?_)
      exact List.cons_subset.mpr ⟨hname step hstep, List.Subset.refl _⟩

theorem tagged_renderInline (htag : '<' ∉ text) (hbracket : '[' ∉ text) :
    Tagged inlineNames (renderInline text) := by
  rw [(renderInline_of_bracket_not_mem hbracket).1]
  exact tagged_rewriteAll (fun _ hmem => hmem) (.of_not_mem htag)

theorem tagged_rule : Tagged lineNames "<hr>".toList := by
  refine ⟨["hr".toList], by decide, ?_, fun _ => by simp [Tag.ofText, voidNames]⟩
  rw [List.forall_mem_singleton]
  refine ⟨by decide, ?_⟩
  rintro name (hname | hname) <;> simp [Tag.ofText, voidNames] at hname

theorem Tagged.enclose (hmem : construct ∉ inlineConstructs) (htext : Tagged inlineNames text) :
    Tagged lineNames (construct.enclose text) := by
  have hwider : Tagged lineNames text := htext.mono (List.subset_append_left _ _)
  cases construct with
  | heading | blockquote | orderedItem | unorderedItem =>
      exact hwider.element (by decide) (by decide) (by decide)
  | rule => exact tagged_rule
  | bold | italic | code | image | link => exact absurd (by decide) hmem

theorem tagged_renderLine (hline : '\n' ∉ line) (htag : '<' ∉ line) (hbracket : '[' ∉ line) :
    Tagged lineNames (renderLine line) := by
  have hinner : Tagged inlineNames (renderInline (content line)) :=
    tagged_renderInline (fun hmem => htag (mem_of_mem_content hline hmem))
      fun hmem => hbracket (mem_of_mem_content hline hmem)
  rcases content_cases hline with ⟨hsame, hrender⟩ | ⟨construct, front, hmem, -, -, -, hrender⟩
  · rw [hrender, ← hsame]
    exact hinner.mono (List.subset_append_left _ _)
  · rw [hrender]
    exact hinner.enclose hmem

/-- A line with well-nested HTML is untorn. -/
theorem untorn_of_wellNested_renderLine (hline : '\n' ∉ line) (htag : '<' ∉ line)
    (hbracket : '[' ∉ line) (hnested : WellNested (renderLine line)) : Untorn line := by
  have hcontentTag : '<' ∉ content line := fun hmem => htag (mem_of_mem_content hline hmem)
  have hcontentBracket : '[' ∉ content line := fun hmem =>
    hbracket (mem_of_mem_content hline hmem)
  apply sparesAll_of_wellNested hcontentTag hcontentBracket
  rcases content_cases hline with ⟨hsame, hrender⟩ | ⟨construct, front, hmem, -, -, hrule, hrender⟩
  · rwa [hsame, ← hrender]
  · have hinner := tagged_renderInline hcontentTag hcontentBracket
    rw [hrender] at hnested
    cases construct with
    | heading | blockquote | orderedItem | unorderedItem =>
        exact hinner.wellNested_of_element (by decide) (by decide) hnested
    | rule =>
        rw [hrule rfl]
        exact wellNested_of_not_mem List.not_mem_nil
    | bold | italic | code | image | link => exact absurd (by decide) hmem

theorem Block.tagged_html {block : Block}
    (hlines : ∀ line ∈ block.lines, Tagged lineNames (renderLine line)) :
    Tagged (["ul".toList, "ol".toList] ++ lineNames) block.html := by
  cases block with
  | line text =>
      exact (hlines text (List.mem_singleton.mpr rfl)).mono (List.subset_append_right _ _)
  | run kind items =>
      rw [Block.html, ListKind.openTag_append]
      have hitems := (Tagged.flatMap hlines).mono
        (List.subset_append_right ["ul".toList, "ol".toList] _)
      cases kind <;> exact hitems.element (by decide) (by decide) (by decide)

theorem Block.wellNested_lines {block : Block}
    (hlines : ∀ line ∈ block.lines, Tagged lineNames (renderLine line))
    (hnested : WellNested block.html) : ∀ line ∈ block.lines, WellNested (renderLine line) := by
  cases block with
  | line text =>
      rintro other hother
      obtain rfl := List.mem_singleton.mp hother
      exact hnested
  | run kind items =>
      rw [Block.html, ListKind.openTag_append] at hnested
      have hitems : Tagged lineNames (items.flatMap renderLine) := .flatMap hlines
      have hnew : kind.tag ∉ lineNames := by cases kind <;> decide
      exact Tagged.wellNested_of_flatMap hlines
        (hitems.wellNested_of_element kind.elementName_tag hnew hnested)

theorem wellNested_of_unlines {texts : List Text} (htexts : ∀ text ∈ texts, Tagged names text)
    (hnested : WellNested (Text.unlines texts)) : ∀ text ∈ texts, WellNested text := by
  have hskip (text : Text) : readTags ('\n' :: text) = readTags text := by
    rw [readTags, if_neg (by decide)]
  by_cases hempty : texts = []
  · rw [hempty]
    exact List.forall_mem_nil _
  · have hwhole : WellNested (texts.flatMap fun text => '\n' :: text) := by
      rwa [← Text.cons_unlines hempty, WellNested, hskip]
    have htagged : ∀ text ∈ texts, Tagged names ('\n' :: text) := by
      intro text htext
      rw [Tagged, hskip]
      exact htexts text htext
    intro text htext
    have hline := Tagged.wellNested_of_flatMap htagged hwhole text htext
    rwa [WellNested, hskip] at hline

/-- **Torn lines show.** Without images and links, the rendering of a document is well nested
exactly if its lines are untorn. -/
theorem wellNested_renderLines_iff (hnewline : ∀ line ∈ lines, '\n' ∉ line)
    (htag : ∀ line ∈ lines, '<' ∉ line) (hbracket : ∀ line ∈ lines, '[' ∉ line) :
    WellNested (renderLines lines) ↔ ∀ line ∈ lines, Untorn line := by
  refine ⟨?_, fun hlines => wellNested_renderLines hlines hnewline htag⟩
  intro hnested
  have htagged : ∀ line ∈ lines, Tagged lineNames (renderLine line) := fun line hline =>
    tagged_renderLine (hnewline line hline) (htag line hline) (hbracket line hline)
  have hlines : (blocks lines).flatMap Block.lines = lines :=
    (isPartition_blocks lines).flatMap_lines
  have hblocks : ∀ block ∈ blocks lines, ∀ line ∈ block.lines, Tagged lineNames (renderLine line) :=
    fun block hblock line hline =>
      htagged line (hlines ▸ List.mem_flatMap.mpr ⟨block, hblock, hline⟩)
  rw [renderLines_eq_unlines_blocks] at hnested
  have hhtml := wellNested_of_unlines (List.forall_mem_map.mpr fun block hblock =>
    Block.tagged_html (hblocks block hblock)) hnested
  intro line hline
  rw [← hlines] at hline
  obtain ⟨block, hblock, hmem⟩ := List.mem_flatMap.mp hline
  have hlineIn : line ∈ lines := hlines ▸ List.mem_flatMap.mpr ⟨block, hblock, hmem⟩
  apply untorn_of_wellNested_renderLine (hnewline line hlineIn) (htag line hlineIn)
    (hbracket line hlineIn)
  exact Block.wellNested_lines (hblocks block hblock) (hhtml _ (List.mem_map_of_mem hblock)) line
    hmem

end Lines

end MarkupEditor.Markup

import MarkupEditor.Proofs.Markup.Images

/-!
# Links beside images

The steps before the image step replace marks by tags. Neither holds a character of the outline of an
image, and a tag is never empty, so these steps cannot bring an exclamation mark in front of a
bracket: every image in the new text was one in the old. With the image step the count of images
drops below that of the line, and a link that the link step reads behind an exclamation mark would be
an image. On a line with one image there is no such link. On a line with two there may be, since the
image step rewrites only the first.
-/

namespace MarkupEditor.Markup

/-- The characters of the outline of an image. -/
def brackets : List Char := ['!', '[', ']', '(', ')']

def Bracketless (text : Text) : Prop :=
  ∀ c ∈ text, c ∉ brackets

instance (text : Text) : Decidable (Bracketless text) :=
  List.decidableBAll (fun c => c ∉ brackets) text

/-- The new text is the old one with tags in place of marks. A tag may also stand where no mark
was, but no mark goes without a tag. -/
inductive Retagged : Text → Text → Prop
  | nil : Retagged [] []
  | keep (c : Char) {old new : Text} (hrest : Retagged old new) : Retagged (c :: old) (c :: new)
  | tag {mark tag old new : Text} (hmark : Bracketless mark) (htag : Bracketless tag)
      (hne : tag ≠ []) (hrest : Retagged old new) : Retagged (mark ++ old) (tag ++ new)

namespace Retagged

variable {old new front body : Text} {c : Char}

theorem refl (text : Text) : Retagged text text := by
  induction text with
  | nil => exact nil
  | cons c text ih => exact keep c ih

theorem append {otherOld otherNew : Text} (hfirst : Retagged old new)
    (hsecond : Retagged otherOld otherNew) : Retagged (old ++ otherOld) (new ++ otherNew) := by
  induction hfirst with
  | nil => exact hsecond
  | keep c _ ih => exact keep c ih
  | tag hmark htag hne _ ih =>
      rw [List.append_assoc, List.append_assoc]
      exact tag hmark htag hne ih

theorem eq_nil (hretagged : Retagged old []) : old = [] := by
  generalize hnew : ([] : Text) = new at hretagged
  cases hretagged with
  | nil => rfl
  | keep c _ => simp at hnew
  | tag _ _ hne _ =>
      rw [eq_comm, List.append_eq_nil_iff] at hnew
      exact absurd hnew.1 hne

/-- A bracket was there before, and what stands on either side of it was retagged by itself. -/
theorem exists_of_append_cons (hretagged : Retagged old (body ++ c :: new)) (hc : c ∈ brackets)
    (hbody : c ∉ body) :
    ∃ oldBody rest, old = oldBody ++ c :: rest ∧ c ∉ oldBody ∧ Retagged oldBody body ∧
      Retagged rest new := by
  generalize hwhole : body ++ c :: new = whole at hretagged
  induction hretagged generalizing body with
  | nil => simp at hwhole
  | @keep d old whole hrest ih =>
      cases body with
      | nil =>
          obtain ⟨rfl, rfl⟩ := List.cons.inj hwhole
          exact ⟨[], old, rfl, List.not_mem_nil, nil, hrest⟩
      | cons e body =>
          obtain ⟨rfl, htail⟩ := List.cons.inj hwhole
          rw [List.mem_cons, not_or] at hbody
          obtain ⟨oldBody, rest, rfl, holdBody, hinner, hafter⟩ := ih hbody.2 htail
          refine ⟨e :: oldBody, rest, rfl, ?_, keep e hinner, hafter⟩
          rw [List.mem_cons, not_or]
          exact ⟨hbody.1, holdBody⟩
  | @tag mark tag old whole hmark htag hne _ ih =>
      have hinside : ∃ inner, body = tag ++ inner ∧ whole = inner ++ c :: new := by
        rcases List.append_eq_append_iff.mp hwhole with ⟨overlap, htagEq, hrest⟩ | hinside
        · cases overlap with
          | nil => exact ⟨[], by simpa using htagEq.symm, hrest.symm⟩
          | cons d overlap =>
              -- the bracket would belong to the tag
              obtain ⟨rfl, -⟩ := List.cons.inj hrest
              exact absurd hc (htag c (by simp [htagEq]))
        · exact hinside
      obtain ⟨inner, rfl, hinner⟩ := hinside
      rw [List.mem_append, not_or] at hbody
      obtain ⟨oldBody, rest, rfl, holdBody, hbefore, hafter⟩ := ih hbody.2 hinner.symm
      refine ⟨mark ++ oldBody, rest, (List.append_assoc _ _ _).symm, ?_,
        Retagged.tag hmark htag hne hbefore, hafter⟩
      rw [List.mem_append, not_or]
      exact ⟨fun hmem => hmark c hmem hc, holdBody⟩

theorem exists_of_cons (hretagged : Retagged old (c :: new)) (hc : c ∈ brackets) :
    ∃ rest, old = c :: rest ∧ Retagged rest new := by
  obtain ⟨oldBody, rest, rfl, -, hbody, hrest⟩ :=
    exists_of_append_cons (show Retagged old ([] ++ c :: new) from hretagged) hc List.not_mem_nil
  rw [hbody.eq_nil]
  exact ⟨rest, rfl, hrest⟩

theorem mem (hretagged : Retagged old new) (hc : c ∈ brackets) (hmem : c ∈ new) : c ∈ old := by
  obtain ⟨body, rest, rfl, hbody⟩ := List.eq_append_cons_of_mem hmem
  obtain ⟨oldBody, oldRest, rfl, -⟩ := exists_of_append_cons hretagged hc hbody
  simp

theorem closes (hretagged : Retagged old new) (hcloses : Closes new) : Closes old := by
  obtain ⟨label, rest, hlabel, hrest, rfl⟩ := hcloses
  obtain ⟨oldLabel, behind, rfl, holdLabel, -, hbehind⟩ :=
    hretagged.exists_of_append_cons (by decide) hlabel
  obtain ⟨oldRest, rfl, hinner⟩ := hbehind.exists_of_cons (by decide)
  exact ⟨oldLabel, oldRest, holdLabel, hinner.mem (by decide) hrest, rfl⟩

theorem isSome_imageAt (hretagged : Retagged old new) (hread : (imageAt new).isSome) :
    (imageAt old).isSome := by
  rw [isSome_imageAt_iff] at hread ⊢
  obtain ⟨body, rfl, hbody⟩ := hread
  obtain ⟨opened, rfl, hopened⟩ := hretagged.exists_of_cons (by decide)
  obtain ⟨oldBody, rfl, hinner⟩ := hopened.exists_of_cons (by decide)
  exact ⟨oldBody, rfl, hinner.closes hbody⟩

theorem imageCount_le (hretagged : Retagged old new) : imageCount new ≤ imageCount old := by
  induction hretagged with
  | nil => exact Nat.le_refl _
  | keep c hrest ih =>
      have hfirst := (keep c hrest).isSome_imageAt
      simp only [imageCount]
      split
      · rename_i hread
        rw [if_pos (hfirst hread)]
        omega
      · omega
  | @tag mark tag old new _ htag _ _ ih =>
      rw [imageCount_append_of_not_mem fun hmem => htag '!' hmem (by decide)]
      exact Nat.le_trans ih (imageCount_le_append mark old)

theorem tag_nil {mark tag : Text} (hmark : Bracketless mark) (htag : Bracketless tag)
    (hne : tag ≠ []) : Retagged mark tag := by
  have hretagged := Retagged.tag hmark htag hne nil
  rwa [List.append_nil, List.append_nil] at hretagged

theorem element {opening closing name : Text} (hopening : Bracketless opening)
    (hclosing : Bracketless closing) (hname : Bracketless name) (body : Text) :
    Retagged (opening ++ (body ++ closing)) (Markup.element name body) := by
  have hopeningTag : Bracketless ('<' :: name ++ ['>']) := by
    simp only [Bracketless, List.cons_append, List.forall_mem_cons, List.forall_mem_append]
    exact ⟨by decide, hname, by decide, by simp⟩
  have hclosingTag : Bracketless ('<' :: '/' :: name ++ ['>']) := by
    simp only [Bracketless, List.cons_append, List.forall_mem_cons, List.forall_mem_append]
    exact ⟨by decide, by decide, hname, by decide, by simp⟩
  rw [element_eq_between, List.append_assoc]
  exact (tag_nil hopening hopeningTag (List.cons_ne_nil _ _)).append
    ((refl body).append (tag_nil hclosing hclosingTag (List.cons_ne_nil _ _)))

end Retagged

/-! ### The steps before the image step -/

section Steps

variable {construct : Construct} {constructs : List Construct} {recognise : Recogniser}
  {Piece : Text → Text → Prop} {piece html line body : Text}

theorem Recogniser.Inline.retagged_rewriteFirst (hinline : recognise.Inline Piece)
    (hpieces : ∀ {piece html}, Piece piece html → Retagged piece html) (text : Text) :
    Retagged text (rewriteFirst recognise text) := by
  rcases recognise.readsFirst_or_eq text with ⟨front, html, behind, hreads⟩ | hsame
  · rw [hinline.rewriteFirst_of_readsFirst hreads]
    obtain ⟨piece, hpiece, rfl⟩ := hinline.exists_piece hreads
    exact (Retagged.refl front).append ((hpieces hpiece).append (Retagged.refl behind))
  · rw [hsame]
    exact Retagged.refl text

theorem BoldPiece.retagged (hpiece : BoldPiece piece html) : Retagged piece html := by
  obtain ⟨c, rest, -, -, rfl, rfl⟩ := hpiece
  have hstars : Bracketless ['*', '*'] := by decide
  exact Retagged.element hstars hstars (by decide) (c :: rest)

theorem MarkedPiece.retagged {mark : Char} {name : Text} (hmark : Bracketless [mark])
    (hname : Bracketless name) (hpiece : MarkedPiece mark name piece html) :
    Retagged piece html := by
  obtain ⟨body, -, -, rfl, rfl⟩ := hpiece
  exact Retagged.element hmark hmark hname body

theorem ItalicPiece.retagged (hpiece : ItalicPiece piece html) : Retagged piece html := by
  rcases hpiece with hstar | hunderscore
  · exact hstar.retagged (by decide) (by decide)
  · exact hunderscore.retagged (by decide) (by decide)

theorem Inert.bracketless {text : Text} (hinert : Inert text) : Bracketless text := by
  have hsub : brackets ⊆ delimiters := by decide
  exact fun c hc hmem => hinert c hc (hsub hmem)

theorem retagged_enclose (hbody : construct.body? line = some body) :
    Retagged line (construct.enclose body) := by
  obtain ⟨-, hrule, front, hfront, rfl⟩ := body?_eq_some_iff.mp hbody
  have hmark := hfront.inert.bracketless
  have helement : ∀ {name : Text}, Bracketless name → Retagged (front ++ body) (element name body) := by
    intro name hname
    have hclosing : Bracketless [] := by decide
    simpa using Retagged.element hmark hclosing hname body
  cases construct with
  | heading | blockquote | orderedItem | unorderedItem => exact helement (by decide)
  | rule =>
      obtain rfl := hrule rfl
      rw [List.append_nil]
      exact Retagged.tag_nil hmark (by decide : Bracketless "<hr>".toList) (by decide)
  | bold | italic | code | image | link => simp [Construct.body?] at hbody

theorem retagged_rewrite (himage : construct ≠ .image) (hlink : construct ≠ .link) (line : Text) :
    Retagged line (construct.rewrite line) := by
  by_cases hmem : construct ∈ inlineConstructs
  · cases construct with
    | bold => exact boldAt_inline.retagged_rewriteFirst BoldPiece.retagged line
    | italic => exact italicAt_inline.retagged_rewriteFirst ItalicPiece.retagged line
    | code =>
        exact codeAt_inline.retagged_rewriteFirst
          (MarkedPiece.retagged (by decide) (by decide)) line
    | image => exact absurd rfl himage
    | link => exact absurd rfl hlink
    | heading | blockquote | rule | orderedItem | unorderedItem => exact absurd hmem (by decide)
  · cases hbody : construct.body? line with
    | some body =>
        rw [rewrite_of_body? hbody]
        exact retagged_enclose hbody
    | none =>
        rw [rewrite_of_body?_eq_none hmem hbody]
        exact Retagged.refl line

theorem imageCount_rewriteAll_le
    (hsteps : ∀ construct ∈ constructs, construct ≠ .image ∧ construct ≠ .link) (line : Text) :
    imageCount (rewriteAll constructs line) ≤ imageCount line := by
  induction constructs generalizing line with
  | nil => exact Nat.le_refl _
  | cons step constructs ih =>
      rw [List.forall_mem_cons] at hsteps
      rw [rewriteAll_cons]
      exact Nat.le_trans (ih hsteps.2 _) (retagged_rewrite hsteps.1.1 hsteps.1.2 line).imageCount_le

/-- What reaches the link step holds one image less than the line, or none. -/
theorem imageCount_before_link_le (line : Text) :
    imageCount (rewriteAll (Construct.before .link) line) ≤ imageCount line - 1 := by
  have hbefore : Construct.before .link = Construct.before .image ++ [.image] := by decide
  have hsteps : ∀ construct ∈ Construct.before .image, construct ≠ .image ∧ construct ≠ .link := by
    decide
  have hline := imageCount_rewriteAll_le hsteps line
  calc imageCount (rewriteAll (Construct.before .link) line)
      = imageCount (rewriteFirst imageAt (rewriteAll (Construct.before .image) line)) := by
        rw [hbefore, rewriteAll_append]
        rfl
    _ ≤ imageCount (rewriteAll (Construct.before .image) line) - 1 := imageCount_rewriteFirst_le _
    _ ≤ imageCount line - 1 := Nat.sub_le_sub_right hline 1

end Steps

/-! ### The link step -/

/-- The link step reads its link behind an exclamation mark. -/
def CapturesImage (line : Text) : Prop :=
  ∃ front html behind, linkAt.ReadsFirst (rewriteAll (Construct.before .link) line)
    (front ++ ['!']) html behind

section LinkStep

variable {text front html behind : Text}

theorem isSome_imageAt_iff_linkAt :
    (imageAt text).isSome ↔ ∃ rest, text = '!' :: rest ∧ (linkAt rest).isSome := by
  simp only [isSome_imageAt_iff, linkAt, Option.isSome_map, isSome_reference?_iff]
  constructor
  · rintro ⟨body, rfl, hbody⟩
    exact ⟨_, rfl, body, rfl, hbody⟩
  · rintro ⟨_, rfl, body, rfl, hbody⟩
    exact ⟨body, rfl, hbody⟩

theorem linkAt_exclamation (rest : Text) : linkAt ('!' :: rest) = none := by
  rfl

/-- A link behind an exclamation mark is an image, and the leftmost one: an image further left would
hold a link further left. -/
theorem Recogniser.ReadsFirst.image (hreads : linkAt.ReadsFirst text (front ++ ['!']) html behind) :
    ∃ tag later, imageAt.ReadsFirst text front tag later := by
  obtain ⟨rest, rfl, hread⟩ := hreads.read
  have himage : (imageAt ('!' :: rest)).isSome :=
    isSome_imageAt_iff_linkAt.mpr ⟨rest, rfl, Option.isSome_iff_exists.mpr ⟨_, hread⟩⟩
  obtain ⟨⟨tag, later⟩, htag⟩ := Option.isSome_iff_exists.mp himage
  refine ⟨tag, later, ⟨'!' :: rest, by simp, htag⟩, ?_⟩
  intro before after heq hlt
  rw [← Option.not_isSome_iff_eq_none, isSome_imageAt_iff_linkAt]
  rintro ⟨inner, rfl, hinner⟩
  have hnone : linkAt inner = none := by
    apply hreads.leftmost (before ++ ['!']) inner
    · rw [heq]
      simp
    · simpa using hlt
  simp [hnone] at hinner

/-- An image in front of all other links is what the link step reads. -/
theorem Recogniser.ReadsFirst.link (hreads : imageAt.ReadsFirst text front html behind)
    (hnone : ∀ before rest, text = before ++ rest → before.length < front.length →
      linkAt rest = none) :
    ∃ anchor later, linkAt.ReadsFirst text (front ++ ['!']) anchor later := by
  obtain ⟨rest, rfl, hread⟩ := hreads.read
  obtain ⟨inner, rfl, hinner⟩ :=
    isSome_imageAt_iff_linkAt.mp (Option.isSome_iff_exists.mpr ⟨_, hread⟩)
  obtain ⟨⟨anchor, later⟩, hanchor⟩ := Option.isSome_iff_exists.mp hinner
  refine ⟨anchor, later, ⟨inner, by simp, hanchor⟩, ?_⟩
  intro before after heq hlt
  rw [List.length_append, List.length_singleton, Nat.lt_succ_iff_lt_or_eq] at hlt
  rcases hlt with hlt | hlength
  · exact hnone before after heq hlt
  · -- at the exclamation mark itself no link starts
    obtain ⟨-, rfl⟩ := List.append_inj heq hlength.symm
    exact linkAt_exclamation inner

theorem capturesImage_iff_leftmost (line : Text) :
    CapturesImage line ↔ ∃ front html behind,
      imageAt.ReadsFirst (rewriteAll (Construct.before .link) line) front html behind ∧
        ∀ before rest, rewriteAll (Construct.before .link) line = before ++ rest →
          before.length < front.length → linkAt rest = none := by
  constructor
  · rintro ⟨front, html, behind, hreads⟩
    obtain ⟨tag, later, himage⟩ := hreads.image
    refine ⟨front, tag, later, himage, ?_⟩
    intro before rest heq hlt
    apply hreads.leftmost before rest heq
    rw [List.length_append]
    exact Nat.lt_add_right _ hlt
  · rintro ⟨front, html, behind, hreads, hnone⟩
    obtain ⟨anchor, later, hlink⟩ := hreads.link hnone
    exact ⟨front, anchor, later, hlink⟩

theorem two_le_imageCount_of_capturesImage {line : Text} (hcaptures : CapturesImage line) :
    2 ≤ imageCount line := by
  obtain ⟨front, html, behind, hreads⟩ := hcaptures
  obtain ⟨tag, later, himage⟩ := hreads.image
  obtain ⟨rest, heq, hread⟩ := himage.read
  have hpos := imageCount_pos (Option.isSome_iff_exists.mpr ⟨_, hread⟩) front
  have hle := imageCount_before_link_le line
  rw [heq] at hle
  omega

/-- **Images before links.** The link step puts an anchor where it reads a link, and nowhere else. On
a line with at most one image it reads none out of an image. In general it does not exactly if, when
the image step leaves an image, a link starts in front of the leftmost. -/
theorem images_before_links (line : Text) :
    (∀ front html behind,
      linkAt.ReadsFirst (rewriteAll (Construct.before .link) line) front html behind →
        Construct.rewrite .link (rewriteAll (Construct.before .link) line) =
          front ++ (html ++ behind)) ∧
    (imageCount line ≤ 1 → ¬CapturesImage line) ∧
    (¬CapturesImage line ↔ ∀ front html behind,
      imageAt.ReadsFirst (rewriteAll (Construct.before .link) line) front html behind →
        ∃ before rest, rewriteAll (Construct.before .link) line = before ++ rest ∧
          before.length < front.length ∧ (linkAt rest).isSome) := by
  refine ⟨?_, ?_, ?_⟩
  · intro front html behind hreads
    exact linkAt_inline.rewriteFirst_of_readsFirst hreads
  · intro hcount hcaptures
    have htwo := two_le_imageCount_of_capturesImage hcaptures
    omega
  · rw [capturesImage_iff_leftmost]
    constructor
    · intro hnot front html behind hreads
      by_contra hnone
      refine hnot ⟨front, html, behind, hreads, ?_⟩
      intro before rest heq hlt
      rw [← Option.not_isSome_iff_eq_none]
      exact fun hread => hnone ⟨before, rest, heq, hlt, hread⟩
    · rintro hall ⟨front, html, behind, hreads, hnone⟩
      obtain ⟨before, rest, heq, hlt, hread⟩ := hall front html behind hreads
      simp [hnone before rest heq hlt] at hread

/-- The link of this line is read, but not out of its image. -/
theorem images_before_links_home :
    imageCount "![Raven](raven.jpg) and [home](/)".toList ≤ 1 ∧
      ¬CapturesImage "![Raven](raven.jpg) and [home](/)".toList ∧
      renderLine "![Raven](raven.jpg) and [home](/)".toList =
        "<img src=\"raven.jpg\" alt=\"Raven\"> and <a href=\"/\">home</a>".toList :=
  ⟨by decide, (images_before_links _).2.1 (by decide), by decide⟩

/-- The second image of a line becomes a link. -/
theorem capturesImage_second :
    CapturesImage "![a](b) ![c](d)".toList ∧
      renderLine "![a](b) ![c](d)".toList =
        "<img src=\"b\" alt=\"a\"> !<a href=\"d\">c</a>".toList :=
  ⟨⟨"<img src=\"b\" alt=\"a\"> ".toList, anchorHtml ['c'] ['d'], [], by decide⟩, by decide⟩

end LinkStep

end MarkupEditor.Markup
